import AgentLaunch.Windows.Argument
import Mathlib.Data.List.Basic
import Mathlib.Tactic.Common

/-!
# Splitting what was quoted

A reader of a command line carries an open quote and a run of backslashes from one character to the
next, so that what it makes of a piece of the line depends on what stands before.  Not so after a
blank outside quotes: there it is as at the start.  Hence a line whose pieces leave no quote open
is split piece by piece, and a quoted argument is such a piece, with one argument in it.

* `read_append` — a piece without an open quote, and what comes after a blank.
* **`split_quoteChars`** — splitting undoes quoting.
* `split_intercalate` — a line is split piece by piece.

What a reader carries is a state of three parts: the characters of the argument so far, the
backslashes that have not been decided on, and whether a quote is open.  There is one lemma for each
kind of character, and none of the later proofs looks at the definition of a step.

Quoting has two forms.  An argument that is not empty and has neither a blank nor a double quote is
written as it is, and read character by character.  Any other one stands between quotes, where
backslashes are doubled before a double quote and before the end.  `read_quoteFrom` is the induction
for that: on the argument, with the backslashes that are still to be written generalized, and it
says that writing and reading are in step at every point.
-/

namespace AgentLaunch.Windows

namespace SplitState

variable (s : SplitState)

/-- The argument that is being read, if its backslashes stand for themselves. -/
def text : Option (List Char) :=
  if s.backslashes = 0 then s.current else s.extend (List.replicate s.backslashes '\\')

/-! ## One character -/

lemma read_nil : s.read [] = ((s.text.map List.reverse).toList, !s.quoted) := by
  rw [read]
  rfl

lemma read_backslash (cs : List Char) :
    s.read ('\\' :: cs) = { s with backslashes := s.backslashes + 1 }.read cs := by
  rw [read, if_pos rfl]

/-- A double quote after an even number of backslashes opens or closes. -/
lemma read_quote_of_even (h : s.backslashes % 2 = 0) (cs : List Char) :
    s.read ('"' :: cs)
      = { quoted := !s.quoted
          current := s.extend (List.replicate (s.backslashes / 2) '\\')
          backslashes := 0 : SplitState }.read cs := by
  rw [read, if_neg (by decide), if_pos rfl]
  exact if_pos h

/-- A double quote after an odd number of backslashes is a character of the argument. -/
lemma read_quote_of_odd (h : s.backslashes % 2 ≠ 0) (cs : List Char) :
    s.read ('"' :: cs)
      = { quoted := s.quoted
          current := s.extend ('"' :: List.replicate (s.backslashes / 2) '\\')
          backslashes := 0 : SplitState }.read cs := by
  rw [read, if_neg (by decide), if_pos rfl]
  exact if_neg h

/-- A blank outside quotes ends an argument. -/
lemma read_blank {c : Char} (hc : c = ' ' ∨ c = '\t') (h : s.quoted = false) (cs : List Char) :
    s.read (c :: cs)
      = ((s.text.map List.reverse).toList ++ (read {} cs).1, (read {} cs).2) := by
  have hbackslash : c ≠ '\\' := by rcases hc with rfl | rfl <;> decide
  have hquote : c ≠ '"' := by rcases hc with rfl | rfl <;> decide
  rw [read, if_neg hbackslash, if_neg hquote, if_pos ⟨hc, h⟩]
  rfl

/-- A character that is nothing special. -/
lemma read_other {c : Char} (hbackslash : c ≠ '\\') (hquote : c ≠ '"')
    (hblank : ¬((c = ' ' ∨ c = '\t') ∧ s.quoted = false)) (cs : List Char) :
    s.read (c :: cs)
      = { s with
          current := s.extend (c :: List.replicate s.backslashes '\\')
          backslashes := 0 }.read cs := by
  rw [read, if_neg hbackslash, if_neg hquote, if_neg hblank]

/-- A run of backslashes. -/
lemma read_backslashes (n : Nat) (cs : List Char) :
    s.read (List.replicate n '\\' ++ cs)
      = { s with backslashes := s.backslashes + n }.read cs := by
  induction n generalizing s with
  | zero => rfl
  | succ n ih =>
      rw [List.replicate_succ, List.cons_append, read_backslash, ih]
      simp only [Nat.add_assoc, Nat.add_comm 1 n]

/-! ## Pieces of a line -/

/-- **A piece that leaves no quote open** is read for itself, and so is what comes after a blank. -/
lemma read_append {cs : List Char} (h : (s.read cs).2 = true) (rest : List Char) :
    s.read (cs ++ ' ' :: rest)
      = ((s.read cs).1 ++ (read {} rest).1, (read {} rest).2) := by
  induction cs generalizing s with
  | nil =>
      rw [read_nil] at h ⊢
      exact s.read_blank (.inl rfl) (by simpa using h) rest
  | cons c cs ih =>
      rw [List.cons_append]
      by_cases hbackslash : c = '\\'
      · subst hbackslash
        rw [read_backslash] at h ⊢
        rw [read_backslash]
        exact ih _ h
      by_cases hquote : c = '"'
      · subst hquote
        by_cases heven : s.backslashes % 2 = 0
        · rw [s.read_quote_of_even heven] at h ⊢
          rw [s.read_quote_of_even heven]
          exact ih _ h
        · rw [s.read_quote_of_odd heven] at h ⊢
          rw [s.read_quote_of_odd heven]
          exact ih _ h
      by_cases hblank : (c = ' ' ∨ c = '\t') ∧ s.quoted = false
      · rw [s.read_blank hblank.1 hblank.2] at h ⊢
        rw [s.read_blank hblank.1 hblank.2, ih {} h, List.append_assoc]
      · rw [s.read_other hbackslash hquote hblank] at h ⊢
        rw [s.read_other hbackslash hquote hblank]
        exact ih _ h

/-! ## A quoted argument -/

lemma text_getD : s.text.getD [] = List.replicate s.backslashes '\\' ++ s.current.getD [] := by
  unfold text
  by_cases h : s.backslashes = 0
  · rw [if_pos h, h]
    rfl
  · rw [if_neg h]
    rfl

/-- A character that needs no quotes is one more character of the argument. -/
lemma read_plain_cons (hs : s.quoted = false) {c : Char} (hc : forcesQuotes c = false) :
    ∃ s' : SplitState, s'.quoted = false ∧ s'.text = some (c :: s.text.getD [])
      ∧ ∀ cs, s.read (c :: cs) = s'.read cs := by
  by_cases hbackslash : c = '\\'
  · refine ⟨{ s with backslashes := s.backslashes + 1 }, hs, ?_, fun cs => ?_⟩
    · rw [text_getD, hbackslash]
      rfl
    · rw [hbackslash, read_backslash]
  · simp only [forcesQuotes, Bool.or_eq_false_iff, beq_eq_false_iff_ne] at hc
    obtain ⟨⟨⟨⟨hspace, htab⟩, -⟩, -⟩, hquote⟩ := hc
    refine ⟨{ s with
      current := s.extend (c :: List.replicate s.backslashes '\\'), backslashes := 0 }, hs, ?_,
      s.read_other hbackslash hquote (by simp [hspace, htab])⟩
    rw [text_getD]
    rfl

/-- Text that needs no quotes goes on an argument as it is. -/
lemma read_plain {cs read : List Char} (hs : s.quoted = false) (hread : s.text = some read)
    (hcs : ∀ c ∈ cs, forcesQuotes c = false) : s.read cs = ([read.reverse ++ cs], true) := by
  induction cs generalizing s read with
  | nil =>
      rw [read_nil, hread, hs, List.append_nil]
      rfl
  | cons c cs ih =>
      rw [List.forall_mem_cons] at hcs
      obtain ⟨s', hs', hread', hstep⟩ := s.read_plain_cons hs hcs.1
      rw [hstep, ih s' hs' hread' hcs.2, hread]
      simp

/-- What is written of an argument between its opening quote and its end, after some backslashes
that are still to be written. -/
lemma read_quoteFrom (pending : Nat) (arg read : List Char) :
    SplitState.read { quoted := true, current := some read } (quoteFrom pending arg)
      = ([read.reverse ++ List.replicate pending '\\' ++ arg], true) := by
  induction arg generalizing pending read with
  | nil =>
      rw [quoteFrom, read_backslashes, read_quote_of_even _ (by simp), read_nil]
      simp [extend, text]
  | cons c arg ih =>
      rw [quoteFrom]
      by_cases hbackslash : c = '\\'
      · rw [if_pos hbackslash, ih, hbackslash, List.replicate_succ']
        simp
      rw [if_neg hbackslash]
      by_cases hquote : c = '"'
      · rw [if_pos hquote, read_backslashes, read_quote_of_odd _ (by simp)]
        have hhalf : (0 + (pending * 2 + 1)) / 2 = pending := by omega
        simp only [hhalf, extend, Option.getD_some]
        rw [ih, hquote]
        simp
      · rw [if_neg hquote, read_backslashes, read_other _ hbackslash hquote (by simp)]
        simp only [Nat.zero_add, extend, Option.getD_some]
        rw [ih]
        simp

end SplitState

/-! ## Arguments and lines -/

/-- A quoted argument is split into itself and leaves no quote open. -/
lemma read_quoteChars (arg : List Char) : SplitState.read {} (quoteChars arg) = ([arg], true) := by
  unfold quoteChars
  split
  case isTrue h =>
    rw [SplitState.read_quote_of_even _ (by simp)]
    exact SplitState.read_quoteFrom 0 arg []
  case isFalse h =>
    rw [Bool.or_eq_true, not_or] at h
    obtain ⟨hne, hplain⟩ := h
    cases arg with
    | nil => simp at hne
    | cons c cs =>
        have hall : ∀ x ∈ c :: cs, forcesQuotes x = false := by simpa using hplain
        rw [List.forall_mem_cons] at hall
        obtain ⟨s, hs, hread, hstep⟩ := SplitState.read_plain_cons {} rfl hall.1
        rw [hstep, s.read_plain hs hread hall.2]
        rfl

/-- **Splitting undoes quoting.** -/
lemma split_quoteChars (arg : List Char) : split (quoteChars arg) = [arg] :=
  congrArg Prod.fst (read_quoteChars arg)

lemma splitsClosed_quoteChars (arg : List Char) : splitsClosed (quoteChars arg) = true :=
  congrArg Prod.snd (read_quoteChars arg)

/-- **A line is split piece by piece**, if no piece leaves a quote open. -/
lemma split_intercalate {pieces : List (List Char)}
    (h : ∀ piece ∈ pieces, splitsClosed piece = true) :
    split ([' '].intercalate pieces) = pieces.flatMap split := by
  induction pieces with
  | nil => rfl
  | cons piece pieces ih =>
      rw [List.forall_mem_cons] at h
      cases pieces with
      | nil => simp
      | cons next pieces =>
          have hsplit := SplitState.read_append {} h.1 ([' '].intercalate (next :: pieces))
          rw [List.intercalate_cons_cons, List.append_assoc, List.flatMap_cons, ← ih h.2]
          exact congrArg Prod.fst hsplit

/-! ## Command lines as texts -/

/-- The arguments of a command line. -/
def arguments (line : String) : List String :=
  (split line.toList).map String.ofList

/-- A text that leaves no quote open. -/
def Closed (line : String) : Prop := splitsClosed line.toList = true

instance (line : String) : Decidable (Closed line) :=
  inferInstanceAs (Decidable (splitsClosed line.toList = true))

lemma closed_quote (arg : String) : Closed (quote arg) := by
  rw [Closed, quote, String.toList_ofList]
  exact splitsClosed_quoteChars arg.toList

lemma arguments_quote (arg : String) : arguments (quote arg) = [arg] := by
  rw [arguments, quote, String.toList_ofList, split_quoteChars]
  simp

lemma arguments_intercalate {pieces : List String} (h : ∀ piece ∈ pieces, Closed piece) :
    arguments (" ".intercalate pieces) = pieces.flatMap arguments := by
  have hclosed : ∀ piece ∈ pieces.map String.toList, splitsClosed piece = true := by
    intro _ hmem
    obtain ⟨piece, hpiece, rfl⟩ := List.mem_map.mp hmem
    exact h piece hpiece
  have hblank : " ".toList = [' '] := rfl
  rw [arguments, String.toList_intercalate, hblank, split_intercalate hclosed, List.flatMap_map,
    List.map_flatMap]
  rfl

end AgentLaunch.Windows
