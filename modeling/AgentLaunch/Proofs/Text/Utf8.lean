import AgentLaunch.Text.Utf8
import Mathlib.Tactic.Common

/-!
# UTF-8 is read back

A character has one to four bytes.  Its leading byte tells how many follow it, the bounds on the
second byte keep out what has a shorter form and the surrogates, and the payloads of all bytes
together make up the character again.

* `takeTail_continuations`, `tailLength_eq` — the bytes of a character are taken together.
* `firstSegment_continuations` — a character of several bytes, by its payloads.
* `firstSegment_encoded` — one character, by the number of its bytes.
* **`decode?_encode`** — a text is read back.

All bytes that continue a character have one form, `continuation`, with six bits of payload, and so
they are taken by one lemma whatever their number is.  Only the second byte is special, as its
bounds depend on the leading byte.  That these bounds are met is checked for each number of bytes by
arithmetic on the value of the character, which is never that of a surrogate.

The lossy decoder cuts a byte string into segments first.  For the bytes of a text these are its
characters, so the strict decoder and the lossy one agree there.
-/

namespace AgentLaunch.Utf8

/-! ## The bytes of a character -/

section Bytes

variable {lead b : UInt8} {rest : AgentLaunch.Bytes}

/-- How many bytes follow, by the value of the leading byte. -/
lemma tailLength_eq (lead : UInt8) : tailLength lead
    = if lead.toNat < 0x80 then some 0
      else if lead.toNat < 0xC2 then none
      else if lead.toNat < 0xE0 then some 1
      else if lead.toNat < 0xF0 then some 2
      else if lead.toNat < 0xF5 then some 3
      else none := by
  simp only [tailLength, UInt8.lt_iff_toNat_lt]
  rfl

/-- A byte that is in its bounds is taken. -/
lemma takeTail_cons {low high : UInt8} (hlow : low.toNat ≤ b.toNat) (hhigh : b.toNat ≤ high.toNat)
    (n : Nat) (bs : AgentLaunch.Bytes) :
    takeTail low high (n + 1) (b :: bs)
      = (b :: (takeTail 0x80 0xBF n bs).1, (takeTail 0x80 0xBF n bs).2) := by
  rw [takeTail, if_pos ⟨UInt8.le_iff_toNat_le.mpr hlow, UInt8.le_iff_toNat_le.mpr hhigh⟩]

/-- A byte that continues a character, with six bits of payload. -/
def continuation (n : Nat) : UInt8 := UInt8.ofNat (n % 0x40 + 0x80)

lemma toNat_continuation (n : Nat) : (continuation n).toNat = n % 0x40 + 0x80 := by
  rw [continuation, UInt8.toNat_ofNat']
  omega

lemma takeTail_continuations (payloads : List Nat) (rest : AgentLaunch.Bytes) :
    takeTail 0x80 0xBF payloads.length (payloads.map continuation ++ rest)
      = (payloads.map continuation, rest) := by
  induction payloads with
  | nil => rfl
  | cons n payloads ih =>
      have hvalue := toNat_continuation n
      have hlow : (0x80 : UInt8).toNat = 0x80 := rfl
      have hhigh : (0xBF : UInt8).toNat = 0xBF := rfl
      rw [List.length_cons, List.map_cons, List.cons_append, takeTail_cons (by omega) (by omega),
        ih]

lemma toNat_secondLow (lead : UInt8) : (secondLow lead).toNat
    = if lead.toNat = 0xE0 then 0xA0 else if lead.toNat = 0xF0 then 0x90 else 0x80 := by
  simp only [secondLow, ← UInt8.toNat_inj]
  split_ifs <;> first | rfl | contradiction

lemma toNat_secondHigh (lead : UInt8) : (secondHigh lead).toNat
    = if lead.toNat = 0xED then 0x9F else if lead.toNat = 0xF4 then 0x8F else 0xBF := by
  simp only [secondHigh, ← UInt8.toNat_inj]
  split_ifs <;> first | rfl | contradiction

/-- The payload of a leading byte, by the number of the bytes that follow. -/
def leadPayload (lead : UInt8) : Nat → Nat
  | 0 => lead.toNat
  | 1 => lead.toNat - 0xC0
  | 2 => lead.toNat - 0xE0
  | _ => lead.toNat - 0xF0

lemma assemble_continuations (lead : UInt8) (payloads : List Nat) :
    assemble lead (payloads.map continuation) = Char.ofNat
      (payloads.foldl (fun m n => m * 64 + n % 0x40) (leadPayload lead payloads.length)) := by
  rw [assemble, List.foldl_map, List.length_map]
  simp only [toNat_continuation, Nat.add_sub_cancel]
  rfl

/-- **A character is read from its payloads**, if the second byte has the payload that the leading
byte asks for. -/
lemma firstSegment_continuations {v n : Nat} {payloads : List Nat}
    (htail : tailLength lead = some (payloads.length + 1))
    (hshort : (lead.toNat = 0xE0 → 0x20 ≤ n % 0x40) ∧ (lead.toNat = 0xF0 → 0x10 ≤ n % 0x40))
    (hlarge : (lead.toNat = 0xED → n % 0x40 < 0x20) ∧ (lead.toNat = 0xF4 → n % 0x40 < 0x10))
    (hvalue : (n :: payloads).foldl (fun m n => m * 64 + n % 0x40)
      (leadPayload lead (payloads.length + 1)) = v) :
    firstSegment lead ((n :: payloads).map continuation ++ rest)
      = (.char (Char.ofNat v), rest) := by
  have hlow : (secondLow lead).toNat ≤ n % 0x40 + 0x80 := by
    rw [toNat_secondLow]
    split_ifs <;> omega
  have hhigh : n % 0x40 + 0x80 ≤ (secondHigh lead).toNat := by
    rw [toNat_secondHigh]
    split_ifs <;> omega
  have htaken : takeTail (secondLow lead) (secondHigh lead) (payloads.length + 1)
      ((n :: payloads).map continuation ++ rest) = ((n :: payloads).map continuation, rest) := by
    rw [List.map_cons, List.cons_append, takeTail_cons (by rwa [toNat_continuation])
      (by rwa [toNat_continuation]), takeTail_continuations]
  have hassembled : assemble lead ((n :: payloads).map continuation) = Char.ofNat v := by
    rw [assemble_continuations, List.length_cons, hvalue]
  rw [firstSegment, htail]
  simp only [htaken, List.length_map, List.length_cons, if_true, hassembled]

end Bytes

/-! ## One character -/

/-- **The bytes of a character are read as that character.** -/
lemma firstSegment_encoded (c : Char) (rest : Bytes) : ∃ lead tail,
    String.utf8EncodeChar c = lead :: tail
      ∧ firstSegment lead (tail ++ rest) = (.char c, rest) := by
  have hvalid : c.toNat < 0xD800 ∨ 0xDFFF < c.toNat ∧ c.toNat < 0x110000 := c.valid
  have hback := Char.ofNat_toNat c
  have hvalue : c.val.toNat = c.toNat := rfl
  unfold String.utf8EncodeChar
  rw [hvalue]
  generalize c.toNat = v at *
  subst hback
  dsimp only
  split_ifs with h1 h2 h3
  · -- One byte, which stands for itself.
    have hlead : (UInt8.ofNat v).toNat = v := by
      rw [UInt8.toNat_ofNat']
      omega
    have htail : tailLength (UInt8.ofNat v) = some 0 := by
      rw [tailLength_eq, hlead, if_pos (by omega)]
    refine ⟨_, [], rfl, ?_⟩
    rw [firstSegment, htail]
    simp [takeTail, assemble, hlead]
  · -- Two bytes.
    generalize hlead : UInt8.ofNat (v / 64 % 32 + 192) = lead
    have hlead : lead.toNat = v / 64 + 0xC0 := by
      rw [← hlead, UInt8.toNat_ofNat']
      omega
    have htail : tailLength lead = some 1 := by
      rw [tailLength_eq]
      split_ifs <;> first | rfl | omega
    refine ⟨lead, [v].map continuation, rfl, ?_⟩
    refine firstSegment_continuations htail (by omega) (by omega) ?_
    change (lead.toNat - 0xC0) * 64 + v % 0x40 = v
    omega
  · -- Three bytes.
    generalize hlead : UInt8.ofNat (v / 4096 % 16 + 224) = lead
    have hlead : lead.toNat = v / 4096 + 0xE0 := by
      rw [← hlead, UInt8.toNat_ofNat']
      omega
    have htail : tailLength lead = some 2 := by
      rw [tailLength_eq]
      split_ifs <;> first | rfl | omega
    refine ⟨lead, [v / 64, v].map continuation, rfl, ?_⟩
    refine firstSegment_continuations htail (by omega) (by omega) ?_
    change ((lead.toNat - 0xE0) * 64 + v / 64 % 0x40) * 64 + v % 0x40 = v
    omega
  · -- Four bytes.
    generalize hlead : UInt8.ofNat (v / 262144 % 8 + 240) = lead
    have hlead : lead.toNat = v / 262144 + 0xF0 := by
      rw [← hlead, UInt8.toNat_ofNat']
      omega
    have htail : tailLength lead = some 3 := by
      rw [tailLength_eq]
      split_ifs <;> first | rfl | omega
    refine ⟨lead, [v / 4096, v / 64, v].map continuation, rfl, ?_⟩
    refine firstSegment_continuations htail (by omega) (by omega) ?_
    change (((lead.toNat - 0xF0) * 64 + v / 4096 % 0x40) * 64 + v / 64 % 0x40) * 64 + v % 0x40 = v
    omega

/-! ## Texts -/

/-- A text's bytes are the segments of its characters. -/
lemma segments_encode (cs : List Char) :
    segments (cs.flatMap String.utf8EncodeChar) = cs.map .char := by
  induction cs with
  | nil => rw [List.flatMap_nil, segments]; rfl
  | cons c cs ih =>
      obtain ⟨lead, tail, hbytes, hfirst⟩ :=
        firstSegment_encoded c (cs.flatMap String.utf8EncodeChar)
      rw [List.flatMap_cons, hbytes, List.cons_append, segments, hfirst, ih]
      rfl

/-- **A text is read back from its bytes.** -/
lemma decode?_encode (s : String) : decode? (encode s) = some s := by
  have hchars : ∀ cs : List Char, (cs.map Segment.char).mapM Segment.char? = some cs := by
    intro cs
    induction cs with
    | nil => rfl
    | cons c cs ih =>
        rw [List.map_cons, List.mapM_cons, ih]
        rfl
  rw [decode?, encode, segments_encode, hchars, Option.map_some, String.ofList_toList]

end AgentLaunch.Utf8
