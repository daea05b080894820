import AgentLaunch.Document.Toml.Printer
import AgentLaunch.Document.Toml.Token
import Mathlib.Data.List.TakeWhile
import Mathlib.Tactic.Common

/-!
# TOML strings are read back

A string is written in one of five styles, and each of them is read by a part of the reader of its
own.  Between double quotes every character is one step of the reader, whether it is escaped or
not; between apostrophes the reader takes the characters as they are, and the style is only chosen
if no run of apostrophes could be taken for the end.

* `readLine?_escaped`, `readLines?_escaped` — one character between double quotes.
* `Literal` — the texts that can stand between apostrophes.
* **`readString?_stringChars`** — whatever text is written, it is read back, up to the end of the
  line.

Each reader has a bound on its steps, which is the length of what it is given.  The lemmas are about
any bound that is large enough, and each induction is on the text with the bound generalized: a
character takes one step, and there is always one more for the end.

The hard style is the one with three apostrophes, where nothing can be escaped.  Apostrophes in the
text must not be taken for its end, and two more may come right before that.  `longestRun` bounds
the runs wherever they begin, and `Literal` is the condition that is left for a suffix of the text,
so that an induction can use it.
-/

namespace AgentLaunch.Toml

/-! ## Characters -/

section Characters

variable {c : Char}

lemma readCodePoint?_append {width : Nat} {digits : List Char} (tail : List Char)
    (hlength : digits.length = width) (hdigits : digits.all (isDigit 16) = true)
    (hvalid : (numberOf 16 digits).isValidChar) :
    readCodePoint? width (digits ++ tail) = some (Char.ofNat (numberOf 16 digits), tail) := by
  subst hlength
  have htake : ((digits ++ tail).take digits.length).takeWhile (isDigit 16) = digits := by
    rw [List.take_left]
    exact List.takeWhile_eq_self_iff.mpr (List.all_eq_true.mp hdigits)
  rw [readCodePoint?, htake, if_pos ⟨rfl, hvalid⟩, List.drop_left]

/-- Four hexadecimal digits stand for the control character they are made of. -/
lemma readCodePoint?_hex4 (h : c.toNat ≤ 0x1F ∨ c.toNat = 0x7F) (tail : List Char) :
    readCodePoint? 4 (hex4 c.toNat ++ tail) = some (c, tail) := by
  have hdigits : ∀ n ≤ 0x7F, (n ≤ 0x1F ∨ n = 0x7F) → (hex4 n).length = 4
      ∧ (hex4 n).all (isDigit 16) = true ∧ numberOf 16 (hex4 n) = n := by decide +kernel
  obtain ⟨hlength, hall, hvalue⟩ := hdigits c.toNat (by omega) h
  have hvalid : (numberOf 16 (hex4 c.toNat)).isValidChar := by
    rw [hvalue]
    exact c.valid
  have hread := readCodePoint?_append tail hlength hall hvalid
  rwa [hvalue, Char.ofNat_toNat] at hread

lemma isPlain_of_not_control (h : ¬ (c.toNat ≤ 0x1F ∨ c.toNat = 0x7F)) : isPlain c = true := by
  simp only [isPlain, Bool.or_eq_true, Bool.and_eq_true, decide_eq_true_eq]
  omega

end Characters

/-! ## Between double quotes -/

section Escaped

/-- An escape is one step of the reader of a line. -/
lemma readLine?_escape {n : Nat} {cs rest : List Char} {c : Char}
    (h : readEscape? cs = some (c, rest)) :
    readLine? '"' true (n + 1) ('\\' :: cs)
      = (readLine? '"' true n rest).map fun (text, rest) => (c :: text, rest) := by
  rw [readLine?, if_neg (by decide), if_pos ⟨rfl, rfl⟩, h]
  simp only [Option.bind_eq_bind, Option.bind_some]
  cases readLine? '"' true n rest <;> rfl

/-- Every character between double quotes is one step of the reader of a line. -/
lemma readLine?_escaped (n : Nat) (c : Char) (tail : List Char) :
    readLine? '"' true (n + 1) (escaped false c ++ tail)
      = (readLine? '"' true n tail).map fun (text, rest) => (c :: text, rest) := by
  unfold escaped
  split_ifs with hb ht hn hmulti hf hr hquote hslash hcontrol
  · subst hb
    exact readLine?_escape rfl
  · subst ht
    exact readLine?_escape rfl
  · exact absurd hmulti (by decide)
  · subst hn
    exact readLine?_escape rfl
  · subst hf
    exact readLine?_escape rfl
  · subst hr
    exact readLine?_escape rfl
  · subst hquote
    exact readLine?_escape rfl
  · subst hslash
    exact readLine?_escape rfl
  · exact readLine?_escape (readCodePoint?_hex4 hcontrol tail)
  · rw [List.singleton_append, readLine?, if_neg hquote, if_neg (by simp [hslash]),
      if_pos (isPlain_of_not_control hcontrol)]

/-- An escape is one step of the reader of several lines, unless it seems to fold them. -/
lemma readLines?_escape {n : Nat} {cs rest : List Char} {c : Char}
    (hfold : skipFoldedLines? cs = none) (h : readEscape? cs = some (c, rest)) :
    readLines? '"' true (n + 1) ('\\' :: cs)
      = (readLines? '"' true n rest).map fun (text, rest) => (c :: text, rest) := by
  rw [readLines?, if_neg (by decide), if_pos ⟨rfl, rfl⟩, hfold, h]
  simp only [Option.bind_eq_bind, Option.bind_some]
  cases readLines? '"' true n rest <;> rfl

/-- Every character between three double quotes is one step of the reader of several lines. -/
lemma readLines?_escaped (n : Nat) (c : Char) (tail : List Char) :
    readLines? '"' true (n + 1) (escaped true c ++ tail)
      = (readLines? '"' true n tail).map fun (text, rest) => (c :: text, rest) := by
  unfold escaped
  split_ifs with hb ht hn hmulti hf hr hquote hslash hcontrol
  · subst hb
    exact readLines?_escape rfl rfl
  · subst ht
    exact readLines?_escape rfl rfl
  · subst hn
    rfl
  · exact absurd rfl hmulti
  · subst hf
    exact readLines?_escape rfl rfl
  · subst hr
    exact readLines?_escape rfl rfl
  · subst hquote
    exact readLines?_escape rfl rfl
  · subst hslash
    exact readLines?_escape rfl rfl
  · exact readLines?_escape rfl (readCodePoint?_hex4 hcontrol tail)
  · have hline : skipNewline? (c :: tail) = none := by
      unfold skipNewline?
      split <;> simp_all
    rw [List.singleton_append, readLines?, if_neg hquote, if_neg (by simp [hslash]), hline]
    exact if_pos (isPlain_of_not_control hcontrol)

/-- A text between double quotes. -/
lemma readLine?_inside {n : Nat} {cs : List Char} (rest : List Char) (hn : cs.length < n) :
    readLine? '"' true n (cs.flatMap (escaped false) ++ '"' :: rest) = some (cs, rest) := by
  induction cs generalizing n with
  | nil =>
      obtain ⟨n, rfl⟩ := Nat.exists_eq_add_one.mpr hn
      rfl
  | cons c cs ih =>
      obtain ⟨n, rfl⟩ := Nat.exists_eq_add_one.mpr (Nat.zero_lt_of_lt hn)
      rw [List.flatMap_cons, List.append_assoc, readLine?_escaped, ih (by simpa using hn)]
      rfl

/-- Three quotes end a text of several lines. -/
lemma readLines?_end (quote : Char) (escapes : Bool) (n : Nat) {rest : List Char}
    (hrest : rest.head? ≠ some quote) :
    readLines? quote escapes (n + 1) (quote :: quote :: quote :: rest) = some ([], rest) := by
  have htake : (quote :: quote :: rest).takeWhile (· == quote) = [quote, quote] := by
    rcases rest with _ | ⟨c, rest⟩
    · simp
    · have hc : (c == quote) = false := beq_eq_false_iff_ne.mpr (by simpa using hrest)
      simp [hc]
  rw [readLines?, if_pos rfl]
  simp [htake]

/-- A text between three double quotes. -/
lemma readLines?_inside {n : Nat} {cs rest : List Char} (hn : cs.length < n)
    (hrest : rest.head? ≠ some '"') :
    readLines? '"' true n (cs.flatMap (escaped true) ++ '"' :: '"' :: '"' :: rest)
      = some (cs, rest) := by
  induction cs generalizing n with
  | nil =>
      obtain ⟨n, rfl⟩ := Nat.exists_eq_add_one.mpr hn
      exact readLines?_end '"' true n hrest
  | cons c cs ih =>
      obtain ⟨n, rfl⟩ := Nat.exists_eq_add_one.mpr (Nat.zero_lt_of_lt hn)
      rw [List.flatMap_cons, List.append_assoc, readLines?_escaped, ih (by simpa using hn)]
      rfl

end Escaped

/-! ## Between apostrophes -/

section Literally

lemma longestRun_mono {n m : Nat} (h : n ≤ m) (cs : List Char) :
    longestRun n cs ≤ longestRun m cs := by
  induction cs generalizing n m with
  | nil => exact h
  | cons c cs ih =>
      rw [longestRun, longestRun]
      split_ifs
      · exact ih (Nat.succ_le_succ h)
      · omega

/-- A run of apostrophes counts wherever it begins. -/
lemma takeWhile_le_longestRun (n : Nat) (cs : List Char) :
    n + (cs.takeWhile (· == '\'')).length ≤ longestRun n cs := by
  induction cs generalizing n with
  | nil => exact Nat.le_refl n
  | cons c cs ih =>
      rw [longestRun]
      by_cases hc : c = '\''
      · subst hc
        have hrest := ih (n + 1)
        simp only [List.takeWhile_cons, beq_self_eq_true, if_true, List.length_cons]
        omega
      · simp only [List.takeWhile_cons, beq_eq_false_iff_ne.mpr hc, Bool.false_eq_true, if_false,
          List.length_nil, hc]
        omega

lemma longestRun_suffix {post cs : List Char} (h : post <:+ cs) (n : Nat) :
    longestRun 0 post ≤ longestRun n cs := by
  induction cs generalizing n with
  | nil =>
      obtain rfl := List.suffix_nil.mp h
      exact longestRun_mono (Nat.zero_le n) []
  | cons c cs ih =>
      rcases List.suffix_cons_iff.mp h with rfl | h
      · exact longestRun_mono (Nat.zero_le n) _
      · rw [longestRun]
        split_ifs
        · exact ih h (n + 1)
        · exact le_trans (ih h 0) (le_max_right _ _)

/-- A text that can stand between apostrophes, because they could not be taken for its end and it
has no control characters. -/
structure Literal (cs : List Char) : Prop where
  plain : ∀ c ∈ cs, isPlain c = true ∨ c = '\n'
  runs : ∀ post, post <:+ cs → (post.takeWhile (· == '\'')).length < 3
  last : cs.getLast? ≠ some '\''

lemma literal_of_prefersLiteral {cs : List Char} (h : prefersLiteral cs = true) : Literal cs := by
  simp only [prefersLiteral, Bool.and_eq_true, Bool.not_eq_true', decide_eq_true_eq,
    bne_iff_ne] at h
  obtain ⟨⟨⟨-, hplain⟩, hrun⟩, hlast⟩ := h
  refine ⟨fun c hc => ?_, fun post hpost => ?_, hlast⟩
  · have hescape : needsEscape c = false := by simpa using List.any_eq_false.mp hplain c hc
    by_cases hline : c = '\n'
    · exact .inr hline
    · by_cases htab : c = '\t'
      · exact .inl (htab ▸ rfl)
      · refine .inl (isPlain_of_not_control ?_)
        simpa [needsEscape, hline, htab] using hescape
  · have hle := takeWhile_le_longestRun 0 post
    have hsuffix := longestRun_suffix hpost 0
    omega

lemma Literal.tail {c : Char} {cs : List Char} (h : Literal (c :: cs)) : Literal cs where
  plain d hd := h.plain d (List.mem_cons_of_mem c hd)
  runs post hpost := h.runs post (hpost.trans (List.suffix_cons c cs))
  last := by
    rcases cs with _ | ⟨d, cs⟩
    · simp
    · exact fun hlast => h.last (by rwa [List.getLast?_cons_cons])

/-- A text between three apostrophes. -/
lemma readLines?_literal {n : Nat} {cs rest : List Char} (h : Literal cs) (hn : cs.length < n)
    (hrest : rest.head? ≠ some '\'') :
    readLines? '\'' false n (cs ++ '\'' :: '\'' :: '\'' :: rest) = some (cs, rest) := by
  induction cs generalizing n with
  | nil =>
      obtain ⟨n, rfl⟩ := Nat.exists_eq_add_one.mpr hn
      exact readLines?_end '\'' false n hrest
  | cons c cs ih =>
      obtain ⟨n, rfl⟩ := Nat.exists_eq_add_one.mpr (Nat.zero_lt_of_lt hn)
      have hread := ih h.tail (Nat.lt_of_succ_lt_succ hn)
      rw [List.cons_append, readLines?]
      by_cases hc : c = '\''
      · subst hc
        -- The last character is another one, so the run ends inside the text.
        have hrun : ((cs ++ '\'' :: '\'' :: '\'' :: rest).takeWhile (· == '\'')).length < 2 := by
          have hruns := h.runs _ List.suffix_rfl
          simp only [List.takeWhile_cons, beq_self_eq_true, if_true, List.length_cons] at hruns
          have hends : (cs.takeWhile (· == '\'')).length ≠ cs.length := by
            intro hall
            have hall := List.takeWhile_eq_self_iff.mp
              ((List.takeWhile_prefix _).eq_of_length hall)
            refine h.last ?_
            rw [List.getLast?_cons]
            cases hlast : cs.getLast? with
            | none => rfl
            | some d => simpa using hall d (List.mem_of_getLast? hlast)
          rw [List.takeWhile_append, if_neg hends]
          omega
        rw [if_pos rfl]
        simp only
        rw [if_pos (by omega), hread]
        rfl
      · rw [if_neg hc, if_neg (by simp)]
        by_cases hline : c = '\n'
        · subst hline
          exact congrArg (Option.map _) hread
        · have hplain := (h.plain c List.mem_cons_self).resolve_right hline
          have hskip : skipNewline? (c :: (cs ++ '\'' :: '\'' :: '\'' :: rest)) = none := by
            unfold skipNewline?
            split <;> simp_all [isPlain]
          rw [hskip]
          simp only
          rw [if_pos hplain, hread]
          rfl

/-- A text between two apostrophes. -/
lemma readLine?_literal {n : Nat} {cs : List Char} (rest : List Char)
    (h : ∀ c ∈ cs, isPlain c = true ∧ c ≠ '\'') (hn : cs.length < n) :
    readLine? '\'' false n (cs ++ '\'' :: rest) = some (cs, rest) := by
  induction cs generalizing n with
  | nil =>
      obtain ⟨n, rfl⟩ := Nat.exists_eq_add_one.mpr hn
      rfl
  | cons c cs ih =>
      obtain ⟨n, rfl⟩ := Nat.exists_eq_add_one.mpr (Nat.zero_lt_of_lt hn)
      obtain ⟨⟨hplain, hc⟩, hcs⟩ := List.forall_mem_cons.mp h
      rw [List.cons_append, readLine?, if_neg hc, if_neg (by simp), if_pos hplain,
        ih hcs (Nat.lt_of_succ_lt_succ hn)]
      rfl

end Literally

/-! ## All styles -/

section Styles

variable {cs rest : List Char}

lemma readString?_quoted (h : ∀ tail, cs ≠ '"' :: '"' :: tail) :
    readString? ('"' :: cs)
      = (readLine? '"' true (cs.length + 2) cs).map
        fun (text, rest) => (String.ofList text, rest) := by
  unfold readString?
  split
  · rename_i heq
    exact absurd (List.cons.inj heq).2 (h _)
  · rename_i heq
    cases heq
  · rename_i heq
    cases heq
    rfl
  · rename_i heq
    cases heq
  · rename_i hother _
    exact (hother cs rfl).elim

lemma readString?_literal (h : ∀ tail, cs ≠ '\'' :: '\'' :: tail) :
    readString? ('\'' :: cs) = (readLine? '\'' false (cs.length + 2) cs).map
      fun (text, rest) => (String.ofList text, rest) := by
  unfold readString?
  split
  · rename_i heq
    cases heq
  · rename_i heq
    exact absurd (List.cons.inj heq).2 (h _)
  · rename_i heq
    cases heq
  · rename_i heq
    cases heq
    rfl
  · rename_i hother
    exact (hother cs rfl).elim

/-- No character between double quotes begins with one. -/
lemma head?_escaped (multiline : Bool) (c : Char) :
    ∃ d tail, escaped multiline c = d :: tail ∧ d ≠ '"' := by
  unfold escaped
  split_ifs with hb ht hn hmulti hf hr hquote
  all_goals first | exact ⟨_, _, rfl, by decide⟩ | exact ⟨c, [], rfl, hquote⟩

lemma length_le_flatMap_escaped (multiline : Bool) (cs : List Char) :
    cs.length ≤ (cs.flatMap (escaped multiline)).length := by
  induction cs with
  | nil => exact Nat.le_refl 0
  | cons c cs ih =>
      obtain ⟨d, tail, hescaped, -⟩ := head?_escaped multiline c
      simp only [List.flatMap_cons, List.length_append, List.length_cons, hescaped]
      omega

lemma readString?_threeApostrophes (h : Literal cs) (hrest : rest.head? ≠ some '\'')
    {front : List Char}
    (hfront : (skipNewline? (front ++ cs ++ '\'' :: '\'' :: '\'' :: rest)).getD
      (front ++ cs ++ '\'' :: '\'' :: '\'' :: rest) = cs ++ '\'' :: '\'' :: '\'' :: rest) :
    readString? ('\'' :: '\'' :: '\'' :: (front ++ cs ++ '\'' :: '\'' :: '\'' :: rest))
      = some (String.ofList cs, rest) := by
  have hread := readLines?_literal h (n := (front ++ cs ++ '\'' :: '\'' :: '\'' :: rest).length + 4)
    (by simp only [List.length_append]; omega) hrest
  rw [← hfront] at hread
  exact congrArg (Option.map fun (text, rest) => (String.ofList text, rest)) hread

/-- A text on one line between apostrophes, three of them if there are some in it. -/
lemma readString?_literalLine (h : Literal cs) (hline : ∀ c ∈ cs, isPlain c = true) :
    readString? ((if cs.contains '\'' then "'''".toList ++ cs ++ "'''".toList
      else '\'' :: cs ++ ['\'']) ++ '\n' :: rest) = some (String.ofList cs, '\n' :: rest) := by
  by_cases happ : cs.contains '\'' = true
  · have hsplit : "'''".toList ++ cs ++ "'''".toList ++ '\n' :: rest
        = '\'' :: '\'' :: '\'' :: ([] ++ cs ++ '\'' :: '\'' :: '\'' :: '\n' :: rest) := by
      simp
    rw [if_pos happ, hsplit]
    refine readString?_threeApostrophes h (by simp) ?_
    cases cs with
    | nil => cases happ
    | cons c cs =>
        have hc := hline c List.mem_cons_self
        have hskip : ∀ tail, skipNewline? (c :: tail) = none := by
          intro tail
          unfold skipNewline?
          split <;> simp_all [isPlain]
        rw [List.nil_append, List.cons_append, hskip]
        rfl
  · have hread := readLine?_literal (n := (cs ++ '\'' :: '\n' :: rest).length + 2) ('\n' :: rest)
      (fun c hc => ⟨hline c hc, fun h => happ (by simpa [h] using hc)⟩)
      (by simp only [List.length_append]; omega)
    have hsplit : '\'' :: cs ++ ['\''] ++ '\n' :: rest = '\'' :: (cs ++ '\'' :: '\n' :: rest) := by
      simp
    rw [if_neg happ, hsplit, readString?_literal, hread]
    · rfl
    · rintro tail htail
      cases cs with
      | nil => simp at htail
      | cons c cs => exact happ (by simp [(List.cons.inj htail).1])

/-- A text of several lines between three apostrophes, after a line end that is no part of it. -/
lemma readString?_literalLines (h : Literal cs) :
    readString? ("'''\n".toList ++ cs ++ "'''".toList ++ '\n' :: rest)
      = some (String.ofList cs, '\n' :: rest) := by
  have hsplit : "'''\n".toList ++ cs ++ "'''".toList ++ '\n' :: rest
      = '\'' :: '\'' :: '\'' :: (['\n'] ++ cs ++ '\'' :: '\'' :: '\'' :: '\n' :: rest) := by
    simp
  rw [hsplit]
  exact readString?_threeApostrophes h (by simp) rfl

/-- A text on one line between double quotes. -/
lemma readString?_quotedLine (cs rest : List Char) :
    readString? ('"' :: cs.flatMap (escaped false) ++ ['"'] ++ '\n' :: rest)
      = some (String.ofList cs, '\n' :: rest) := by
  have hsplit : '"' :: cs.flatMap (escaped false) ++ ['"'] ++ '\n' :: rest
      = '"' :: (cs.flatMap (escaped false) ++ '"' :: '\n' :: rest) := by
    simp
  have hlength := length_le_flatMap_escaped false cs
  rw [hsplit, readString?_quoted,
    readLine?_inside _ (by simp only [List.length_cons, List.length_append]; omega)]
  · rfl
  · rintro tail htail
    cases cs with
    | nil => simp at htail
    | cons c cs =>
        obtain ⟨d, more, hescaped, hd⟩ := head?_escaped false c
        rw [List.flatMap_cons, hescaped] at htail
        exact hd (List.cons.inj htail).1

/-- A text of several lines between three double quotes. -/
lemma readString?_quotedLines (cs rest : List Char) :
    readString? ("\"\"\"\n".toList ++ cs.flatMap (escaped true) ++ "\"\"\"".toList ++ '\n' :: rest)
      = some (String.ofList cs, '\n' :: rest) := by
  have hsplit : "\"\"\"\n".toList ++ cs.flatMap (escaped true) ++ "\"\"\"".toList ++ '\n' :: rest
      = '"' :: '"' :: '"' :: '\n'
        :: (cs.flatMap (escaped true) ++ '"' :: '"' :: '"' :: '\n' :: rest) := by
    simp
  have hlength := length_le_flatMap_escaped true cs
  have hfuel : cs.length
      < ('\n' :: (cs.flatMap (escaped true) ++ '"' :: '"' :: '"' :: '\n' :: rest)).length + 4 := by
    simp only [List.length_cons, List.length_append]
    omega
  have hends : ('\n' :: rest).head? ≠ some '"' := by simp
  rw [hsplit]
  exact congrArg (Option.map fun (text, rest) => (String.ofList text, rest))
    (readLines?_inside hfuel hends)

/-- **A text is read back**, in whatever style it is written, up to the end of the line. -/
lemma readString?_stringChars (cs rest : List Char) :
    readString? (stringChars cs ++ '\n' :: rest) = some (String.ofList cs, '\n' :: rest) := by
  rw [stringChars]
  by_cases hliteral : prefersLiteral cs = true
  · have htext := literal_of_prefersLiteral hliteral
    rw [if_pos hliteral]
    by_cases hmulti : cs.contains '\n' = true
    · rw [if_pos hmulti]
      exact readString?_literalLines htext
    · rw [if_neg hmulti]
      exact readString?_literalLine htext fun c hc =>
        (htext.plain c hc).resolve_right fun h => hmulti (by simpa [h] using hc)
  · rw [if_neg hliteral]
    by_cases hmulti : cs.contains '\n' = true
    · rw [if_pos hmulti, hmulti]
      exact readString?_quotedLines cs rest
    · rw [if_neg hmulti, Bool.eq_false_iff.mpr hmulti]
      exact readString?_quotedLine cs rest

end Styles

end AgentLaunch.Toml
