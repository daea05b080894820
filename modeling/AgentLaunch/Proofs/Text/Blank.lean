import AgentLaunch.Text.Blank
import Mathlib.Data.List.DropRight

/-!
# What trimming leaves

Names, addresses and passwords that are configured or reported may be padded with blanks of any
kind, and are used without their padding.  Only the ends of a text matter for that.

* `Unpadded` — a text without a blank at either end.
* `unpadded_trim` — trimming leaves such a text, and `trimmed?` one that is not empty.
* `trim_of_unpadded`, `trim_append` — trimming changes nothing about such a text, and does not tell
  how a text was padded.

Trimming is two passes, one from each end.  What the first leaves does not begin with a blank, and
the second only takes characters from the other end, so it cannot undo that (`trimBack_begins`).
-/

namespace AgentLaunch.Text

/-- No blank stands at either end of a text. -/
def Unpadded (s : String) : Prop :=
  (∀ c ∈ s.toList.head?, isBlank c = false) ∧ ∀ c ∈ s.toList.getLast?, isBlank c = false

lemma trimmed?_eq (s : String) : trimmed? s = if trim s = "" then none else some (trim s) := by
  simp [trimmed?]

lemma head?_trimFront {cs : List Char} {c : Char} (h : c ∈ (trimFront cs).head?) :
    isBlank c = false := by
  have hnot := List.head?_dropWhile_not isBlank cs
  rw [trimFront, Option.mem_def] at h
  rw [h] at hnot
  exact hnot

lemma trimBack_begins (cs : List Char) : trimBack cs <+: cs :=
  List.rdropWhile_prefix isBlank cs

lemma getLast?_trimBack {cs : List Char} {c : Char} (h : c ∈ (trimBack cs).getLast?) :
    isBlank c = false := by
  rw [trimBack, List.getLast?_reverse] at h
  exact head?_trimFront h

/-- **A trimmed text is not padded.** -/
lemma unpadded_trim (s : String) : Unpadded (trim s) := by
  refine ⟨fun c hc => ?_, fun c hc => ?_⟩
  · rw [trim, String.toList_ofList] at hc
    obtain ⟨rest, hrest⟩ := trimBack_begins (trimFront s.toList)
    have hfront : c ∈ (trimFront s.toList).head? := by
      rw [← hrest, List.head?_append, Option.mem_def.mp hc]
      rfl
    exact head?_trimFront hfront
  · rw [trim, String.toList_ofList] at hc
    exact getLast?_trimBack hc

/-- Trimming only takes characters away. -/
lemma trim_sublist (s : String) : (trim s).toList.Sublist s.toList := by
  rw [trim, String.toList_ofList]
  exact (trimBack_begins _).sublist.trans (List.dropWhile_sublist isBlank)

/-! ## Padding -/

/-- A text that holds nothing but blanks. -/
def Blank (s : String) : Prop := ∀ c ∈ s.toList, isBlank c = true

lemma trimFront_of_head? {cs : List Char} (h : ∀ c ∈ cs.head?, isBlank c = false) :
    trimFront cs = cs := by
  cases cs with
  | nil => rfl
  | cons c cs => exact List.dropWhile_cons_of_neg (by simp [h c (by simp)])

lemma trimBack_of_getLast? {cs : List Char} (h : ∀ c ∈ cs.getLast?, isBlank c = false) :
    trimBack cs = cs := by
  have hfront : trimFront cs.reverse = cs.reverse :=
    trimFront_of_head? (by rwa [List.head?_reverse])
  rw [trimFront] at hfront
  rw [trimBack, hfront, List.reverse_reverse]

/-- **A text that is not padded** is left as it is. -/
lemma trim_of_unpadded {s : String} (h : Unpadded s) : trim s = s := by
  rw [trim, trimFront_of_head? h.1, trimBack_of_getLast? h.2, String.ofList_toList]

lemma trimBack_append {cs back : List Char} (hback : ∀ c ∈ back, isBlank c = true) :
    trimBack (cs ++ back) = trimBack cs := by
  have hreverse : ∀ c ∈ back.reverse, isBlank c = true := by simpa using hback
  rw [trimBack, List.reverse_append, List.dropWhile_append_of_pos hreverse, ← trimBack]

/-- **Padding makes no difference.** -/
lemma trim_append {front back : String} (hfront : Blank front) (hback : Blank back) (s : String) :
    trim (front ++ s ++ back) = trim s := by
  have hchars : trimBack (trimFront (front.toList ++ (s.toList ++ back.toList)))
      = trimBack (trimFront s.toList) := by
    rw [trimFront, List.dropWhile_append_of_pos hfront, List.dropWhile_append]
    by_cases hnone : (s.toList.dropWhile isBlank).isEmpty
    · -- Nothing is left in front of the blanks at the end, so that they go with the front.
      rw [if_pos hnone, trimFront, List.isEmpty_iff.mp hnone, List.dropWhile_eq_nil_iff.mpr hback]
    · rw [if_neg hnone]
      exact trimBack_append hback
  rw [trim, trim, String.toList_append, String.toList_append, List.append_assoc, hchars]

lemma of_trimmed?_eq_some {s text : String} (h : trimmed? s = some text) :
    text = trim s ∧ text ≠ "" := by
  rw [trimmed?_eq] at h
  split at h
  · cases h
  · next hne =>
    obtain rfl := Option.some.inj h
    exact ⟨rfl, hne⟩

end AgentLaunch.Text
