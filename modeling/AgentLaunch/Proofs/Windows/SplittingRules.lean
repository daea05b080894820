import AgentLaunch.Proofs.Windows.Argument

/-!
# The rules of splitting

The rules by which a program takes its command line apart speak of whole runs of backslashes and of
what follows a run.  `split` reads one character after the other and counts backslashes instead.
This module states the rules as they are told, shows that `split` follows them and that they leave
no choice, and draws the conclusion for arguments that were quoted.

* `Splits` — the rules, with a constructor for each.
* `splits_iff` — what the rules find is what `split` finds.
* **`splitsInto_quoted_iff`** — by the rules, quoted arguments with a space between any two are
  split into these arguments, and into nothing else.

The rules are inductive, so they could be silent about some lines or find two things in one.
Neither is the case: `exists_splits` finds something in every line, by strong induction on its
length since a whole run is read at once, and `Splits.read_eq` shows by induction on the rules that
it is what `split` finds.  Hence the equivalence, and a conclusion about the rules follows from one
about `split`.

A reader in the middle of a run of backslashes has no counterpart in the rules.  `settle` decides a
run of which it is known that no double quote follows.
-/

namespace AgentLaunch.Windows

/-! ## The rules -/

/-- What may follow a run of backslashes that stand for themselves: no more of them, and no double
quote. -/
def EndsRun (rest : List Char) : Prop := ∀ c ∈ rest.head?, c ≠ '\\' ∧ c ≠ '"'

/-- **The splitting rules.**  A reader is inside quotes or not, and has read some of an argument or
stands between two of them; `Splits quoted arg line args` says that it finds `args` in what it has
read of an argument and the rest of the line. -/
inductive Splits : Bool → Option (List Char) → List Char → List (List Char) → Prop where
  /-- The end of the line ends an argument. -/
  | done {quoted : Bool} {arg : Option (List Char)} : Splits quoted arg [] arg.toList
  /-- Outside quotes, a space or a tab ends an argument. -/
  | blank {arg : Option (List Char)} {c : Char} {rest : List Char} {args : List (List Char)}
      (hc : c = ' ' ∨ c = '\t') (h : Splits false none rest args) :
      Splits false arg (c :: rest) (arg.toList ++ args)
  /-- Of `2k` backslashes before a double quote `k` are read, and the quote opens or closes. -/
  | toggle {quoted : Bool} {arg : Option (List Char)} {rest : List Char} {args : List (List Char)}
      (k : Nat) (h : Splits (!quoted) (some (arg.getD [] ++ List.replicate k '\\')) rest args) :
      Splits quoted arg (List.replicate (2 * k) '\\' ++ '"' :: rest) args
  /-- Of `2k + 1` backslashes before a double quote `k` are read, and the quote itself. -/
  | literalQuote {quoted : Bool} {arg : Option (List Char)} {rest : List Char}
      {args : List (List Char)} (k : Nat)
      (h : Splits quoted (some (arg.getD [] ++ List.replicate k '\\' ++ ['"'])) rest args) :
      Splits quoted arg (List.replicate (2 * k + 1) '\\' ++ '"' :: rest) args
  /-- Backslashes that no double quote follows stand for themselves. -/
  | backslashes {quoted : Bool} {arg : Option (List Char)} {rest : List Char}
      {args : List (List Char)} (k : Nat) (hrest : EndsRun rest)
      (h : Splits quoted (some (arg.getD [] ++ List.replicate (k + 1) '\\')) rest args) :
      Splits quoted arg (List.replicate (k + 1) '\\' ++ rest) args
  /-- So does every other character. -/
  | other {quoted : Bool} {arg : Option (List Char)} {c : Char} {rest : List Char}
      {args : List (List Char)} (hbackslash : c ≠ '\\') (hquote : c ≠ '"')
      (hblank : ¬((c = ' ' ∨ c = '\t') ∧ quoted = false))
      (h : Splits quoted (some (arg.getD [] ++ [c])) rest args) :
      Splits quoted arg (c :: rest) args

/-- What the rules find in a whole line. -/
def SplitsInto (line : String) (args : List String) : Prop :=
  Splits false none line.toList (args.map String.toList)

/-! ## Reading by the rules -/

namespace SplitState

/-- A reader without backslashes that wait for what follows them. -/
def between (quoted : Bool) (arg : Option (List Char)) : SplitState where
  quoted
  current := arg.map List.reverse

@[simp] lemma text_between (quoted : Bool) (arg : Option (List Char)) :
    (between quoted arg).text = arg.map List.reverse := rfl

/-- More characters of the argument that is being read. -/
lemma extend_between (quoted : Bool) (arg : Option (List Char)) (cs : List Char) :
    (between quoted arg).extend cs = (some (arg.getD [] ++ cs.reverse)).map List.reverse := by
  cases arg <;> simp [between, extend]

/-- A reader for whom the backslashes that wait stand for themselves. -/
def settle (s : SplitState) : SplitState where
  quoted := s.quoted
  current := s.text

/-- After a run of backslashes that stand for themselves, none of them waits any more. -/
lemma read_settle (s : SplitState) {rest : List Char} (hrest : EndsRun rest) :
    s.settle.read rest = s.read rest := by
  cases rest with
  | nil => simp [read_nil, settle, text]
  | cons c rest =>
      obtain ⟨hbackslash, hquote⟩ := hrest c (by simp)
      by_cases hblank : (c = ' ' ∨ c = '\t') ∧ s.quoted = false
      · rw [s.read_blank hblank.1 hblank.2, s.settle.read_blank hblank.1 hblank.2]
        simp [settle, text]
      · rw [s.read_other hbackslash hquote hblank, s.settle.read_other hbackslash hquote hblank]
        simp [settle, extend, text_getD]

end SplitState

open SplitState (between text_between extend_between)

section Rules

variable {quoted : Bool} {arg : Option (List Char)} {line : List Char} {args : List (List Char)}

/-- **Reading follows the rules.** -/
lemma Splits.read_eq (h : Splits quoted arg line args) :
    ((between quoted arg).read line).1 = args := by
  induction h with
  | done => simp [SplitState.read_nil]
  | blank hc _ ih =>
      rw [SplitState.read_blank _ hc rfl]
      change _ ++ ((between false none).read _).1 = _
      rw [ih]
      simp
  | @toggle quoted arg rest args k _ ih =>
      rw [SplitState.read_backslashes, SplitState.read_quote_of_even _ (by simp [between])]
      have hhalf : (0 + 2 * k) / 2 = k := by omega
      have hextend := extend_between quoted arg (List.replicate k '\\')
      rw [List.reverse_replicate] at hextend
      simp only [between, SplitState.extend] at hextend ih ⊢
      rw [hhalf, hextend]
      exact ih
  | @literalQuote quoted arg rest args k _ ih =>
      rw [SplitState.read_backslashes, SplitState.read_quote_of_odd _ (by simp [between])]
      have hhalf : (0 + (2 * k + 1)) / 2 = k := by omega
      have hextend := extend_between quoted arg ('"' :: List.replicate k '\\')
      rw [List.reverse_cons, List.reverse_replicate, ← List.append_assoc] at hextend
      simp only [between, SplitState.extend] at hextend ih ⊢
      rw [hhalf, hextend]
      exact ih
  | @backslashes quoted arg rest args k hrest _ ih =>
      rw [SplitState.read_backslashes, ← SplitState.read_settle _ hrest]
      have hextend := extend_between quoted arg (List.replicate (k + 1) '\\')
      rw [List.reverse_replicate] at hextend
      simp only [between, SplitState.settle, SplitState.extend, SplitState.text, Nat.zero_add,
        Nat.succ_ne_zero, if_false] at hextend ih ⊢
      rw [hextend]
      exact ih
  | @other quoted arg c rest args hbackslash hquote hblank _ ih =>
      rw [SplitState.read_other _ hbackslash hquote hblank]
      have hextend := extend_between quoted arg [c]
      simp only [between, SplitState.extend, List.reverse_singleton] at hextend ih ⊢
      simp only [List.replicate_zero]
      rw [hextend]
      exact ih

/-- A line starts with a run of backslashes, perhaps an empty one. -/
lemma exists_run (line : List Char) :
    ∃ k rest, line = List.replicate k '\\' ++ rest ∧ ∀ c ∈ rest.head?, c ≠ '\\' := by
  induction line with
  | nil => exact ⟨0, [], by simp⟩
  | cons c line ih =>
      by_cases hc : c = '\\'
      · obtain ⟨k, rest, hline, hrest⟩ := ih
        refine ⟨k + 1, rest, ?_, hrest⟩
        rw [hc, hline, List.replicate_succ, List.cons_append]
      · exact ⟨0, c :: line, by simp, by simpa using hc⟩

/-- **The rules find something in every line.** -/
lemma exists_splits (quoted : Bool) (arg : Option (List Char)) (line : List Char) :
    ∃ args, Splits quoted arg line args := by
  -- The recursion is over the length of the line, since a run is read in one go.
  induction hlength : line.length using Nat.strongRecOn generalizing quoted arg line with
  | ind length ih =>
      subst hlength
      obtain ⟨k, rest, rfl, hrest⟩ := exists_run line
      cases rest with
      | nil =>
          cases k with
          | zero => exact ⟨_, .done⟩
          | succ k => exact ⟨_, .backslashes k (by simp [EndsRun]) .done⟩
      | cons c rest =>
          have hbackslash : c ≠ '\\' := hrest c (by simp)
          have hshorter : ∀ quoted arg, ∃ args, Splits quoted arg rest args := by
            intro quoted arg
            exact ih rest.length (by simp; omega) quoted arg rest rfl
          by_cases hquote : c = '"'
          · subst hquote
            obtain ⟨half, rfl | rfl⟩ : ∃ half, k = 2 * half ∨ k = 2 * half + 1 := ⟨k / 2, by omega⟩
            · obtain ⟨args, h⟩ := hshorter (!quoted) _
              exact ⟨args, .toggle half h⟩
            · obtain ⟨args, h⟩ := hshorter quoted _
              exact ⟨args, .literalQuote half h⟩
          -- What follows the run is read first, and then the run, if there is one.
          have hhead : ∀ arg, ∃ args, Splits quoted arg (c :: rest) args := by
            intro arg
            by_cases hblank : (c = ' ' ∨ c = '\t') ∧ quoted = false
            · obtain ⟨hc, rfl⟩ := hblank
              obtain ⟨args, h⟩ := hshorter false none
              exact ⟨_, .blank hc h⟩
            · obtain ⟨args, h⟩ := hshorter quoted _
              exact ⟨args, .other hbackslash hquote hblank h⟩
          cases k with
          | zero => exact hhead arg
          | succ k =>
              obtain ⟨args, h⟩ := hhead (some (arg.getD [] ++ List.replicate (k + 1) '\\'))
              exact ⟨args, .backslashes k (by simpa [EndsRun] using ⟨hbackslash, hquote⟩) h⟩

/-- **The rules find what is read.** -/
lemma splits_iff : Splits quoted arg line args ↔ ((between quoted arg).read line).1 = args := by
  constructor
  · exact Splits.read_eq
  · intro h
    obtain ⟨found, hfound⟩ := exists_splits quoted arg line
    rwa [← h, hfound.read_eq]

end Rules

lemma splitsInto_iff {line : String} {args : List String} :
    SplitsInto line args ↔ arguments line = args := by
  have hinverse : (List.map String.ofList) ∘ (List.map String.toList) = id := by
    funext args
    simp [Function.comp_def]
  rw [SplitsInto, splits_iff, arguments]
  constructor
  · intro h
    change split line.toList = _ at h
    rw [h]
    exact congrFun hinverse args
  · intro h
    rw [← h]
    change split line.toList = _
    simp [Function.comp_def]

/-- **Quoted arguments are split into themselves.**  Whatever characters they hold, and however many
there are, the rules take the line of quoted arguments apart in one way only. -/
theorem splitsInto_quoted_iff (args found : List String) :
    SplitsInto (" ".intercalate (args.map quote)) found ↔ found = args := by
  have hclosed : ∀ piece ∈ args.map quote, Closed piece := by
    intro piece hpiece
    obtain ⟨arg, -, rfl⟩ := List.mem_map.mp hpiece
    exact closed_quote arg
  have hsplit : arguments (" ".intercalate (args.map quote)) = args := by
    rw [arguments_intercalate hclosed, List.flatMap_map]
    simp [arguments_quote]
  rw [splitsInto_iff, hsplit]
  exact eq_comm

-- An argument that needs no quotes, an empty one, and one that ends in a quote and backslashes.
example : SplitsInto "a\\b \"\" \"c \\\"\\\\\\\\\"" ["a\\b", "", "c \"\\\\"] := by
  rw [splitsInto_iff]
  decide

end AgentLaunch.Windows
