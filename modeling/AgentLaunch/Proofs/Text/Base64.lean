import AgentLaunch.Text.Base64
import Mathlib.Tactic.Common

/-!
# Base64, written and read

Every byte string has one written form, and reading it gives the byte string back.  The written
form takes four characters for every three bytes, and for what is left of them, and has characters
of the alphabet and padding only, so that it can be put where other characters would mean
something.

* **`decode?_encode`** — reading what was written.
* `length_encode`, `isCode_of_mem_encode` — how long the written form is, and what is in it.

Encoding takes three bytes at a time, and every proof here is by the induction of `encode`, with two
more cases for one or two bytes at the end.  Four digits are read back to three bytes by arithmetic
on sextets.  The reader has to see that a group is not padded, and does so by its last digit, which
is no padding.

Nothing is said about texts that are no written form.  Whatever becomes of them, nobody who reads
what was written meets one.
-/

namespace AgentLaunch.Base64

/-! ## Digits -/

/-- The padding is no digit, so it cannot be mistaken for one. -/
lemma digit_ne_padding {n : Nat} (h : n < 64) : digit n ≠ '=' := by
  have hall : ∀ m : Fin 64, digit m ≠ '=' := by decide
  exact hall ⟨n, h⟩

/-- A character of a written form: a digit or the padding. -/
def IsCode (c : Char) : Prop := c = '=' ∨ ∃ n, n < 64 ∧ c = digit n

lemma isCode_digit {n : Nat} (h : n < 64) : IsCode (digit n) := .inr ⟨n, h, rfl⟩

lemma isCode_padding : IsCode '=' := .inl rfl

/-- What holds of the padding and of all digits holds of the characters of a written form. -/
lemma IsCode.all {P : Char → Prop} (hpadding : P '=') (hdigit : ∀ m : Fin 64, P (digit m))
    {c : Char} (hc : IsCode c) : P c := by
  rcases hc with rfl | ⟨n, hn, rfl⟩
  · exact hpadding
  · exact hdigit ⟨n, hn⟩

/-! ## Reading what was written -/

/-- Four digits at the front of a written form.  The last one shows that they are no padded
group. -/
lemma decode?_digits {w x y z : Nat} (hw : w < 64) (hx : x < 64) (hy : y < 64) (hz : z < 64)
    (rest : List Char) :
    decode? (digit w :: digit x :: digit y :: digit z :: rest)
      = (decode? rest).map fun more =>
          ((w * 262144 + x * 4096 + y * 64 + z) / 65536).toUInt8
            :: ((w * 262144 + x * 4096 + y * 64 + z) / 256 % 256).toUInt8
            :: ((w * 262144 + x * 4096 + y * 64 + z) % 256).toUInt8 :: more := by
  rw [decode?]
  · simp only [value?_digit hw, value?_digit hx, value?_digit hy, value?_digit hz]
    cases decode? rest <;> rfl
  · intro _ hpad _
    exact digit_ne_padding hz hpad
  · intro hpad _
    exact digit_ne_padding hz hpad

/-- Two bytes in sextets, the last one shifted to its place. -/
lemma sextets_two (n : Nat) : n / 1024 * 1024 + n / 16 % 64 * 16 + n % 16 * 4 / 4 = n := by
  omega

/-- Three bytes in sextets. -/
lemma sextets_three (n : Nat) :
    n / 262144 * 262144 + n / 4096 % 64 * 4096 + n / 64 % 64 * 64 + n % 64 = n := by
  omega

/-- A byte from its value. -/
lemma toUInt8_of_eq {n : Nat} {a : UInt8} (h : n = a.toNat) : n.toUInt8 = a := by
  subst h
  exact UInt8.ofNat_toNat

/-- Two digits and the padding. -/
lemma decode?_onePadded {w x : Nat} (hw : w < 64) (hx : x < 64) (hunused : x % 16 = 0) :
    decode? [digit w, digit x, '=', '='] = some [(w * 4 + x / 16).toUInt8] := by
  simp only [decode?, value?_digit hw, value?_digit hx]
  exact if_pos hunused

/-- Three digits and the padding. -/
lemma decode?_twoPadded {w x y : Nat} (hw : w < 64) (hx : x < 64) (hy : y < 64)
    (hunused : y % 4 = 0) :
    decode? [digit w, digit x, digit y, '=']
      = some [((w * 1024 + x * 16 + y / 4) / 256).toUInt8,
          ((w * 1024 + x * 16 + y / 4) % 256).toUInt8] := by
  rw [decode?]
  · simp only [value?_digit hw, value?_digit hx, value?_digit hy]
    exact if_pos hunused
  · exact digit_ne_padding hy

/-- **Reading what was written.** -/
theorem decode?_encode (bs : List UInt8) : decode? (encode bs) = some bs := by
  induction bs using encode.induct with
  | case1 => rfl
  | case2 a =>
      have ha := a.toNat_lt
      have hbyte : a.toNat / 4 * 4 + a.toNat % 4 * 16 / 16 = a.toNat := by omega
      rw [encode, decode?_onePadded (by omega) (by omega) (by omega), toUInt8_of_eq hbyte]
  | case3 a b =>
      have ha := a.toNat_lt
      have hb := b.toNat_lt
      simp only [encode]
      generalize hn : a.toNat * 256 + b.toNat = n
      rw [decode?_twoPadded (by omega) (by omega) (by omega) (by omega), sextets_two,
        toUInt8_of_eq (show n / 256 = a.toNat by omega),
        toUInt8_of_eq (show n % 256 = b.toNat by omega)]
  | case4 a b c rest ih =>
      have ha := a.toNat_lt
      have hb := b.toNat_lt
      have hc := c.toNat_lt
      simp only [encode, group]
      generalize hn : a.toNat * 65536 + b.toNat * 256 + c.toNat = n
      simp only [List.cons_append, List.nil_append]
      rw [decode?_digits (by omega) (by omega) (by omega) (by omega), ih, sextets_three,
        toUInt8_of_eq (show n / 65536 = a.toNat by omega),
        toUInt8_of_eq (show n / 256 % 256 = b.toNat by omega),
        toUInt8_of_eq (show n % 256 = c.toNat by omega)]
      rfl

/-! ## The written form -/

/-- Three bytes take four characters, and so does what is left of them. -/
lemma length_encode (bs : List UInt8) : (encode bs).length = (bs.length + 2) / 3 * 4 := by
  induction bs using encode.induct with
  | case1 => rfl
  | case2 a => simp [encode]
  | case3 a b => simp [encode]
  | case4 a b c rest ih =>
      rw [encode, List.length_append, ih]
      simp only [group, List.length_cons, List.length_nil]
      omega

lemma encode_eq_nil_iff {bs : List UInt8} : encode bs = [] ↔ bs = [] := by
  rw [← List.length_eq_zero_iff, ← List.length_eq_zero_iff, length_encode]
  omega

/-- A written form has digits and padding only. -/
lemma isCode_of_mem_encode {bs : List UInt8} {c : Char} (hc : c ∈ encode bs) : IsCode c := by
  induction bs using encode.induct with
  | case1 => simp [encode] at hc
  | case2 a =>
      have ha := a.toNat_lt
      simp only [encode, List.mem_cons, List.not_mem_nil, or_false] at hc
      rcases hc with rfl | rfl | rfl | rfl
      · exact isCode_digit (by omega)
      · exact isCode_digit (by omega)
      · exact isCode_padding
      · exact isCode_padding
  | case3 a b =>
      have ha := a.toNat_lt
      have hb := b.toNat_lt
      simp only [encode, List.mem_cons, List.not_mem_nil, or_false] at hc
      rcases hc with rfl | rfl | rfl | rfl
      · exact isCode_digit (by omega)
      · exact isCode_digit (by omega)
      · exact isCode_digit (by omega)
      · exact isCode_padding
  | case4 a b d rest ih =>
      have ha := a.toNat_lt
      have hb := b.toNat_lt
      have hd := d.toNat_lt
      rw [encode, List.mem_append] at hc
      rcases hc with hc | hc
      · simp only [group, List.mem_cons, List.not_mem_nil, or_false] at hc
        rcases hc with rfl | rfl | rfl | rfl <;> exact isCode_digit (by omega)
      · exact ih hc

end AgentLaunch.Base64
