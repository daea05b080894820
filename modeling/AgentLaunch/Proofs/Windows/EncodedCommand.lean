import AgentLaunch.Proofs.Text.Base64
import AgentLaunch.Proofs.Text.Utf16
import AgentLaunch.Windows.PowerShell
import Mathlib.Algebra.Order.Floor.Div

/-!
# Scripts as one word

A script goes through three encodings before it stands in a command: characters become UTF-16 units,
these become bytes, and the bytes become Base64.  Each of them is undone by its reader, and the last
one leaves no character that means anything to a shell.

* `decodeCommand?_encodeCommand` — the three readers, one after the other.
* `length_encodeCommand`, `isCode_of_mem_encodeCommand` — how long an encoded script is, and what is
  in it.
* **`invocation_carries`** — a command that runs a script is five words, and the last one is the
  script.

The readers are composed in the opposite order, and each step is an equation from the module about
its encoding, so no induction is left here.  The length follows from the number of units: two bytes
a unit, and four characters for every three bytes or what remains of them.

A command is told apart at its spaces.  An encoded script has none, since every character of it is a
digit of Base64 or its padding; the other words are fixed.
-/

namespace AgentLaunch.PowerShell

variable (script : String)

/-! ## Encoded scripts -/

lemma toList_encodeCommand : (encodeCommand script).toList
    = Base64.encode (Utf16.toBytes (Utf16.units script.toList)) :=
  String.toList_ofList

/-- **A script is read back from its encoded form.** -/
lemma decodeCommand?_encodeCommand : decodeCommand? (encodeCommand script) = some script := by
  simp only [decodeCommand?, toList_encodeCommand, Base64.decode?_encode, Utf16.ofBytes?_toBytes,
    Utf16.ofUnits?_units, Option.bind_eq_bind, Option.bind_some, String.ofList_toList]
  rfl

/-- Every UTF-16 unit is two bytes, and three bytes, or what is left of them, are four
characters. -/
lemma length_encodeCommand :
    (encodeCommand script).length = 4 * (2 * Utf16.unitCount script.toList ⌈/⌉ 3) := by
  rw [← String.length_toList, toList_encodeCommand, Base64.length_encode, Utf16.length_toBytes,
    Utf16.length_units, Nat.ceilDiv_eq_add_pred_div, Nat.mul_comm]
  rfl

lemma isCode_of_mem_encodeCommand {c : Char} (hc : c ∈ (encodeCommand script).toList) :
    Base64.IsCode c := by
  rw [toList_encodeCommand] at hc
  exact Base64.isCode_of_mem_encode hc

/-! ## Commands -/

/-- What stands between the spaces of a command. -/
def words (command : String) : List String :=
  (command.toList.splitOn ' ').map String.ofList

/-- Words without spaces are told apart again. -/
lemma words_intercalate {pieces : List String} (hne : pieces ≠ [])
    (h : ∀ piece ∈ pieces, ' ' ∉ piece.toList) : words (" ".intercalate pieces) = pieces := by
  have hchars : ∀ piece ∈ pieces.map String.toList, ' ' ∉ piece := by
    intro _ hmem
    obtain ⟨piece, hpiece, rfl⟩ := List.mem_map.mp hmem
    exact h piece hpiece
  have hne' : pieces.map String.toList ≠ [] := by simpa using hne
  have hblank : " ".toList = [' '] := rfl
  rw [words, String.toList_intercalate, hblank, List.splitOn_intercalate ' ' hchars hne']
  simp

/-- The words in front of the script. -/
def invocationWords : List String :=
  ["powershell", "-NoProfile", "-NonInteractive", "-EncodedCommand"]

lemma intercalate_invocationWords (encoded : String) :
    "powershell -NoProfile -NonInteractive -EncodedCommand " ++ encoded
      = " ".intercalate (invocationWords ++ [encoded]) := by
  rw [← String.toList_inj, String.toList_intercalate, String.toList_append]
  simp [invocationWords]

lemma invocation_eq :
    invocation script = " ".intercalate (invocationWords ++ [encodeCommand script]) :=
  intercalate_invocationWords (encodeCommand script)

/-- **A script is carried by one word of a command.** -/
structure Carries (script command : String) : Prop where
  words_eq : words command
    = ["powershell", "-NoProfile", "-NonInteractive", "-EncodedCommand", encodeCommand script]
  decodes : decodeCommand? (encodeCommand script) = some script
  length_eq :
    (encodeCommand script).length = 4 * (2 * Utf16.unitCount script.toList ⌈/⌉ 3)
  /-- A shell finds nothing to act on in the word. -/
  harmless : ∀ c ∈ (encodeCommand script).toList,
    c.isAlphanum = true ∨ c = '+' ∨ c = '/' ∨ c = '='

/-- **The command that runs a script carries it**, whatever characters it holds. -/
theorem invocation_carries : Carries script (invocation script) where
  words_eq := by
    have hspace : ∀ piece ∈ invocationWords ++ [encodeCommand script], ' ' ∉ piece.toList := by
      rw [List.forall_mem_append]
      refine ⟨by decide, ?_⟩
      rw [List.forall_mem_singleton]
      intro hmem
      exact (isCode_of_mem_encodeCommand script hmem).all (P := (' ' ≠ ·)) (by decide) (by decide)
        rfl
    rw [invocation_eq, words_intercalate (by simp) hspace]
    rfl
  decodes := decodeCommand?_encodeCommand script
  length_eq := length_encodeCommand script
  harmless := by
    intro c hc
    exact (isCode_of_mem_encodeCommand script hc).all
      (P := fun c => c.isAlphanum = true ∨ c = '+' ∨ c = '/' ∨ c = '=') (by decide) (by decide)

-- A character beyond the Basic Multilingual Plane is a surrogate pair, and needs padding.
example : encodeCommand "😀" = "PdgA3g==" := by decide

end AgentLaunch.PowerShell
