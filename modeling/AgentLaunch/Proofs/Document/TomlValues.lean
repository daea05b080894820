import AgentLaunch.Document.Toml
import AgentLaunch.Proofs.Document.TomlStrings

/-!
# TOML values are read back

A value is told apart by how it begins.  A number in decimal digits could also be the beginning of
a date or of a time, so it has to be seen that no hyphen and no colon follows the digits.

* `readDecimal?_toDigits`, `readNumber?_toDigits` — decimal digits up to the end of the line.
* `Plain` — the documents that are written as a value of one line.
* **`readValue?_valueText?`** — a value that has been written is read back.

Strings were the subject of `TomlStrings`; what comes here are numbers and booleans, and that the
first character sends the reader the right way.  The digits of a number are treated through
`Nat.toDigits`, by strong induction on the number.  A leading zero would be refused, and only zero
itself has one.

What has been written ends with its line, and all lemmas have a rest behind the value, so that they
can be used in the middle of a text.
-/

namespace AgentLaunch.Toml

/-! ## Decimal digits -/

section Digits

variable {n : Nat} {digits rest : List Char}

lemma digitValue?_digitChar {d : Nat} (h : d < 10) : digitValue? 10 d.digitChar = some d := by
  have hall : ∀ d < 10, digitValue? 10 (Nat.digitChar d) = some d := by decide
  exact hall d h

lemma numberOf_append_singleton (digits : List Char) (c : Char) :
    numberOf 10 (digits ++ [c]) = numberOf 10 digits * 10 + (digitValue? 10 c).getD 0 := by
  rw [numberOf, List.foldl_append]
  rfl

/-- The digits of a number stand for it. -/
lemma numberOf_toDigits (n : Nat) : numberOf 10 (Nat.toDigits 10 n) = n := by
  induction n using Nat.strong_induction_on with
  | _ n ih =>
      rw [Nat.toDigits_eq_if (by decide)]
      split_ifs with hn
      · have hvalue := digitValue?_digitChar hn
        simp [numberOf, hvalue]
      · rw [numberOf_append_singleton, ih (n / 10) (by omega),
          digitValue?_digitChar (Nat.mod_lt n (by decide)), Option.getD_some]
        omega

/-- The characters that a number is written with. -/
lemma isDigit_of_mem_toDigits {c : Char} (h : c ∈ Nat.toDigits 10 n) : isDigit 10 c = true := by
  induction n using Nat.strong_induction_on with
  | _ n ih =>
      rw [Nat.toDigits_eq_if (by decide)] at h
      split_ifs at h with hn
      · rw [List.mem_singleton.mp h, isDigit, digitValue?_digitChar hn]
        rfl
      · rcases List.mem_append.mp h with h | h
        · exact ih (n / 10) (by omega) h
        · rw [List.mem_singleton.mp h, isDigit, digitValue?_digitChar (Nat.mod_lt n (by decide))]
          rfl

/-- Only zero is written with a zero at the start. -/
lemma toDigits_eq_zero_cons {tail : List Char} (h : Nat.toDigits 10 n = '0' :: tail) :
    tail = [] := by
  induction n using Nat.strong_induction_on generalizing tail with
  | _ n ih =>
      rw [Nat.toDigits_eq_if (by decide)] at h
      split_ifs at h with hn
      · exact (List.cons.inj h).2.symm
      · exfalso
        obtain ⟨c, more, hmore⟩ := List.exists_cons_of_ne_nil
          (Nat.toDigits_ne_nil (n := n / 10) (b := 10))
        rw [hmore, List.cons_append] at h
        obtain ⟨rfl, -⟩ := List.cons.inj h
        obtain rfl := ih (n / 10) (by omega) hmore
        have hvalue := numberOf_toDigits (n / 10)
        rw [hmore] at hvalue
        have hzero : n / 10 = 0 := hvalue.symm
        omega

lemma isDigit_newline : isDigit 10 '\n' = false := by decide

lemma readMoreDigits?_append (h : ∀ c ∈ digits, isDigit 10 c = true) :
    readMoreDigits? 10 (digits ++ '\n' :: rest) = some (digits, '\n' :: rest) := by
  induction digits with
  | nil => rfl
  | cons c digits ih =>
      obtain ⟨hc, hdigits⟩ := List.forall_mem_cons.mp h
      have hne : c ≠ '_' := by
        rintro rfl
        revert hc
        decide
      rw [List.cons_append, readMoreDigits?.eq_3 10 c _ (fun _ _ h _ => hne h), if_pos hc,
        ih hdigits]
      rfl

lemma readDigits?_append {c : Char} (h : ∀ d ∈ c :: digits, isDigit 10 d = true) :
    readDigits? 10 (c :: digits ++ '\n' :: rest) = some (c :: digits, '\n' :: rest) := by
  obtain ⟨hc, hdigits⟩ := List.forall_mem_cons.mp h
  rw [List.cons_append, readDigits?, if_pos hc, readMoreDigits?_append hdigits]
  rfl

/-- After any number of digits comes another one or the end of the line. -/
lemma head_of_readFixed? {width low high v : Nat} {tail : List Char}
    (h : ∀ c ∈ digits, isDigit 10 c = true)
    (hread : readFixed? width low high (digits ++ '\n' :: rest) = some (v, tail)) :
    ∃ c more, tail = c :: more ∧ (isDigit 10 c = true ∨ c = '\n') := by
  rw [readFixed?] at hread
  obtain ⟨⟨hlength, -⟩, hread⟩ := Option.ite_none_right_eq_some.mp hread
  obtain ⟨-, rfl⟩ := Prod.mk.inj (Option.some.inj hread)
  rcases Nat.lt_or_ge digits.length width with hshort | hlong
  · exfalso
    obtain ⟨k, rfl⟩ := Nat.exists_eq_add_of_lt hshort
    have htake : ((digits ++ '\n' :: rest).take (digits.length + k + 1)).takeWhile (isDigit 10)
        = digits := by
      rw [Nat.add_assoc, List.take_length_add_append, List.take_succ_cons,
        List.takeWhile_append_of_pos h, List.takeWhile_cons, isDigit_newline]
      simp
    rw [htake] at hlength
    omega
  · rw [List.drop_append_of_le_length hlong]
    cases hdrop : digits.drop width with
    | nil => exact ⟨'\n', rest, rfl, .inr rfl⟩
    | cons c more =>
        have hc : c ∈ digits.drop width := hdrop ▸ List.mem_cons_self
        exact ⟨c, more ++ '\n' :: rest, rfl, .inl (h c (List.mem_of_mem_drop hc))⟩

lemma startsDate_eq_false (h : ∀ c ∈ digits, isDigit 10 c = true) :
    startsDate (digits ++ '\n' :: rest) = false := by
  unfold startsDate
  split
  · rename_i hread
    obtain ⟨c, more, htail, hc⟩ := head_of_readFixed? h hread
    obtain ⟨rfl, -⟩ := List.cons.inj htail
    revert hc
    decide
  · rfl

lemma startsTime_eq_false (h : ∀ c ∈ digits, isDigit 10 c = true) :
    startsTime (digits ++ '\n' :: rest) = false := by
  unfold startsTime
  split
  · rename_i hread
    obtain ⟨c, more, htail, hc⟩ := head_of_readFixed? h hread
    obtain ⟨rfl, -⟩ := List.cons.inj htail
    revert hc
    decide
  · rfl

lemma ne_of_isDigit {c d : Char} (hc : isDigit 10 c = true) (hd : isDigit 10 d = false) :
    c ≠ d := by
  rintro rfl
  rw [hc] at hd
  cases hd

lemma skipWord?_eq_none {word : String} {w c : Char} {more tail : List Char}
    (hword : word.toList = w :: more) (hne : w ≠ c) : skipWord? word (c :: tail) = none := by
  rw [skipWord?, hword]
  simp [List.isPrefixOf, hne]

/-- A number in decimal digits begins with one, and with a zero only if it is all of it. -/
lemma exists_toDigits_eq_cons (n : Nat) : ∃ c more, Nat.toDigits 10 n = c :: more
    ∧ isDigit 10 c = true ∧ (∀ d ∈ more, isDigit 10 d = true) ∧ (c = '0' → more = []) := by
  obtain ⟨c, more, hmore⟩ := List.exists_cons_of_ne_nil (Nat.toDigits_ne_nil (n := n) (b := 10))
  have hdigits : ∀ d ∈ c :: more, isDigit 10 d = true :=
    fun d hd => isDigit_of_mem_toDigits (hmore ▸ hd)
  obtain ⟨hc, hothers⟩ := List.forall_mem_cons.mp hdigits
  refine ⟨c, more, hmore, hc, hothers, ?_⟩
  rintro rfl
  exact toDigits_eq_zero_cons hmore

lemma readSign_of_isDigit {c : Char} (hc : isDigit 10 c = true) (tail : List Char) :
    readSign (c :: tail) = (false, c :: tail) :=
  readSign.eq_3 _ (fun _ h => ne_of_isDigit hc (by decide) (List.cons.inj h).1)
    (fun _ h => ne_of_isDigit hc (by decide) (List.cons.inj h).1)

lemma readWhole?_toDigits (n : Nat) (rest : List Char) :
    readWhole? (Nat.toDigits 10 n ++ '\n' :: rest) = some (Nat.toDigits 10 n, '\n' :: rest) := by
  obtain ⟨c, more, hmore, hc, hothers, hzero⟩ := exists_toDigits_eq_cons n
  rw [hmore]
  by_cases h : c = '0'
  · subst h
    obtain rfl := hzero rfl
    rfl
  · rw [List.cons_append, readWhole?.eq_2 _ (fun _ heq => h (List.cons.inj heq).1)]
    exact readDigits?_append (List.forall_mem_cons.mpr ⟨hc, hothers⟩)

/-- **A number that is written in decimal digits** is read as one, up to the end of the line. -/
lemma readDecimal?_toDigits (rest : List Char) (hn : Document.isSigned64 n = true) :
    readDecimal? (Nat.toDigits 10 n ++ '\n' :: rest) = some (.ofNat n, '\n' :: rest) := by
  obtain ⟨c, more, hmore, hc, -, -⟩ := exists_toDigits_eq_cons n
  have hsign : readSign (Nat.toDigits 10 n ++ '\n' :: rest)
      = (false, Nat.toDigits 10 n ++ '\n' :: rest) := by
    rw [hmore]
    exact readSign_of_isDigit hc _
  have hfraction : readFraction? ('\n' :: rest) = some (false, [], '\n' :: rest) := rfl
  have hexponent : readExponent? ('\n' :: rest) = some (false, 0, '\n' :: rest) := rfl
  have hinteger : integer? (numberOf 10 (Nat.toDigits 10 n)) = some (.ofNat n) := by
    rw [numberOf_toDigits]
    exact if_pos hn
  unfold readDecimal?
  rw [hsign]
  refine Option.bind_eq_some_iff.mpr ⟨_, readWhole?_toDigits n rest, ?_⟩
  refine Option.bind_eq_some_iff.mpr ⟨_, hfraction, ?_⟩
  refine Option.bind_eq_some_iff.mpr ⟨_, hexponent, ?_⟩
  refine (if_neg Bool.false_ne_true).trans ?_
  exact Option.bind_eq_some_iff.mpr ⟨_, hinteger, rfl⟩

lemma readNumber?_toDigits (rest : List Char) (hn : Document.isSigned64 n = true) :
    readNumber? (Nat.toDigits 10 n ++ '\n' :: rest) = some (.ofNat n, '\n' :: rest) := by
  have hdigits : ∀ c ∈ Nat.toDigits 10 n, isDigit 10 c = true := fun c => isDigit_of_mem_toDigits
  have hread := readDecimal?_toDigits rest hn
  obtain ⟨c, more, hmore, hc, hothers, hzero⟩ := exists_toDigits_eq_cons n
  have hword : skipNumberWord? (Nat.toDigits 10 n ++ '\n' :: rest) = none := by
    have hinf : "inf".toList = ['i', 'n', 'f'] := rfl
    have hnan : "nan".toList = ['n', 'a', 'n'] := rfl
    rw [hmore, List.cons_append, skipNumberWord?, readSign_of_isDigit hc]
    simp only [skipWord?_eq_none hinf (ne_of_isDigit hc (by decide)).symm,
      skipWord?_eq_none hnan (ne_of_isDigit hc (by decide)).symm, Option.or_none]
  have hradix : ∀ d tail, Nat.toDigits 10 n ++ '\n' :: rest = '0' :: d :: tail → d = '\n' := by
    rintro d tail heq
    rw [hmore, List.cons_append] at heq
    obtain ⟨h, htail⟩ := List.cons.inj heq
    rw [hzero h, List.nil_append] at htail
    exact (List.cons.inj htail).1.symm
  unfold readNumber?
  rw [startsDate_eq_false hdigits, startsTime_eq_false hdigits, hword]
  simp only [Bool.false_eq_true, if_false]
  split
  · rename_i heq
    exact absurd (hradix _ _ heq) (by decide)
  · rename_i heq
    exact absurd (hradix _ _ heq) (by decide)
  · rename_i heq
    exact absurd (hradix _ _ heq) (by decide)
  · exact hread

end Digits

/-! ## Values -/

/-- The documents that are values of one line. -/
inductive Plain : Document → Prop where
  | text (s : String) : Plain (.ofText s)
  | bool (b : Bool) : Plain (.bool b)
  | nat (n : Nat) : Plain (.ofNat n)

section Values

variable {d : Document} {text : String} {rest : List Char}

lemma toList_toString_natCast (n : Nat) : (toString (n : Int)).toList = Nat.toDigits 10 n := by
  have hint : toString (n : Int) = toString n := rfl
  rw [hint, Nat.toString_eq_ofList_toDigits, String.toList_ofList]

lemma exists_stringChars_eq_cons (cs : List Char) :
    ∃ quote tail, stringChars cs = quote :: tail ∧ (quote = '"' ∨ quote = '\'') := by
  rw [stringChars]
  split_ifs
  · exact ⟨_, _, rfl, .inr rfl⟩
  · exact ⟨_, _, rfl, .inr rfl⟩
  · exact ⟨_, _, rfl, .inr rfl⟩
  · exact ⟨_, _, rfl, .inl rfl⟩
  · exact ⟨_, _, rfl, .inl rfl⟩

/-- **A value that has been written is read back**, up to the end of the line. -/
lemma readValue?_valueText? (depth : Nat) (rest : List Char) (hd : Plain d)
    (h : valueText? d = some text) :
    readValue? depth (text.toList ++ '\n' :: rest) = some (d, '\n' :: rest) := by
  cases hd with
  | text s =>
      obtain rfl := Option.some.inj h
      have hread := readString?_stringChars s.toList rest
      rw [String.ofList_toList] at hread
      rw [String.toList_ofList]
      obtain ⟨quote, tail, hchars, rfl | rfl⟩ := exists_stringChars_eq_cons s.toList
      · rw [hchars, List.cons_append] at hread ⊢
        rw [readValue?, hread]
        rfl
      · rw [hchars, List.cons_append] at hread ⊢
        rw [readValue?, hread]
        rfl
  | bool b =>
      obtain rfl := Option.some.inj h
      cases b <;> (rw [readValue?.eq_def]; rfl)
  | nat n =>
      rw [Document.ofNat, valueText?] at h
      obtain ⟨hn, hvalue⟩ := Option.ite_none_right_eq_some.mp h
      obtain rfl := Option.some.inj hvalue
      have hread := readNumber?_toDigits rest hn
      rw [toList_toString_natCast]
      obtain ⟨c, more, hmore, hc, -⟩ := exists_toDigits_eq_cons n
      rw [hmore, List.cons_append] at hread ⊢
      rw [readValue?.eq_def]
      dsimp only
      split
      case h_7 => exact hread
      all_goals
        rename_i heq
        exact absurd (List.cons.inj heq).1 (ne_of_isDigit hc (by decide))

/-- No value begins with a blank. -/
lemma head_of_valueText? (hd : Plain d) (h : valueText? d = some text) :
    ∃ c more, text.toList = c :: more ∧ isBlank c = false := by
  cases hd with
  | text s =>
      obtain rfl := Option.some.inj h
      rw [String.toList_ofList]
      obtain ⟨quote, tail, hchars, rfl | rfl⟩ := exists_stringChars_eq_cons s.toList
      · exact ⟨_, _, hchars, rfl⟩
      · exact ⟨_, _, hchars, rfl⟩
  | bool b =>
      obtain rfl := Option.some.inj h
      cases b
      · exact ⟨_, _, rfl, rfl⟩
      · exact ⟨_, _, rfl, rfl⟩
  | nat n =>
      rw [Document.ofNat, valueText?] at h
      obtain ⟨-, hvalue⟩ := Option.ite_none_right_eq_some.mp h
      obtain rfl := Option.some.inj hvalue
      obtain ⟨c, more, hmore, hc, -⟩ := exists_toDigits_eq_cons n
      refine ⟨c, more, (toList_toString_natCast n).trans hmore, ?_⟩
      rw [isBlank, beq_eq_false_iff_ne.mpr (ne_of_isDigit hc (by decide)),
        beq_eq_false_iff_ne.mpr (ne_of_isDigit hc (by decide))]
      rfl

end Values

end AgentLaunch.Toml
