import AgentLaunch.Text.Utf16
import Mathlib.Tactic.Common

/-!
# UTF-16 is read back

A character of the Basic Multilingual Plane is one code unit and never a surrogate.  Any other
character is a high surrogate and a low one, with ten bits of it in each, so that a reader knows
from every unit whether another one belongs to it.

* `ofUnits?_append` — the units of one character, whatever follows them.
* **`ofUnits?_units`**, **`ofBytes?_toBytes`** — a text is read back from its units, and these from
  their bytes.
* `length_units` — how many units a text has.

A character with two units has a value of at least 10000, in hexadecimal digits, and what exceeds
this is split into two halves of ten bits.  The proof for one character is arithmetic on these
bounds; texts and bytes follow by induction on the list, with whatever comes behind carried along.

Units are written with their low byte first.  There is no byte order mark, and none is expected.
-/

namespace AgentLaunch.Utf16

/-! ## Surrogates -/

section Surrogates

variable {u : UInt16}

lemma isHigh_iff : isHigh u = true ↔ 0xD800 ≤ u.toNat ∧ u.toNat < 0xDC00 := by
  rw [isHigh, Bool.and_eq_true, decide_eq_true_eq, decide_eq_true_eq, UInt16.le_iff_toNat_le,
    UInt16.lt_iff_toNat_lt]
  rfl

lemma isLow_iff : isLow u = true ↔ 0xDC00 ≤ u.toNat ∧ u.toNat < 0xE000 := by
  rw [isLow, Bool.and_eq_true, decide_eq_true_eq, decide_eq_true_eq, UInt16.le_iff_toNat_le,
    UInt16.lt_iff_toNat_lt]
  rfl

/-- A unit that is no surrogate is a character. -/
lemma ofUnits?_cons_of_plain (hu : u.toNat < 0xD800 ∨ 0xDFFF < u.toNat) (us : List UInt16) :
    ofUnits? (u :: us) = (ofUnits? us).map (Char.ofNat u.toNat :: ·) := by
  have hhigh : ¬isHigh u = true := by
    rw [isHigh_iff]
    omega
  have hlow : ¬isLow u = true := by
    rw [isLow_iff]
    omega
  rw [ofUnits?.eq_def]
  dsimp only
  rw [if_neg hhigh, if_neg hlow]

/-- A high surrogate and a low one are a character. -/
lemma ofUnits?_cons_of_pair {v : UInt16} (hu : isHigh u = true) (hv : isLow v = true)
    (us : List UInt16) :
    ofUnits? (u :: v :: us) = (ofUnits? us).map (combine u v :: ·) := by
  rw [ofUnits?, if_pos hu]
  exact if_pos hv

end Surrogates

/-! ## Characters -/

lemma toNat_toUInt16 {n : Nat} (h : n < 0x10000) : n.toUInt16.toNat = n :=
  Nat.mod_eq_of_lt h

/-- **The units of a character are read as that character.** -/
lemma ofUnits?_append (c : Char) (us : List UInt16) :
    ofUnits? (unitsOfChar c ++ us) = (ofUnits? us).map (c :: ·) := by
  have hvalid : c.toNat < 0xD800 ∨ 0xDFFF < c.toNat ∧ c.toNat < 0x110000 := c.valid
  unfold unitsOfChar
  by_cases hplane : c.toNat < 0x10000
  · rw [if_pos hplane]
    have hunit := toNat_toUInt16 hplane
    have hread := ofUnits?_cons_of_plain (u := c.toNat.toUInt16) (by omega) us
    rwa [hunit, Char.ofNat_toNat] at hread
  · rw [if_neg hplane]
    -- Ten bits are in each surrogate.
    have hhigh : (0xD800 + (c.toNat - 0x10000) / 0x400).toUInt16.toNat
        = 0xD800 + (c.toNat - 0x10000) / 0x400 := toNat_toUInt16 (by omega)
    have hlow : (0xDC00 + (c.toNat - 0x10000) % 0x400).toUInt16.toNat
        = 0xDC00 + (c.toNat - 0x10000) % 0x400 := toNat_toUInt16 (by omega)
    have hcombine : combine (0xD800 + (c.toNat - 0x10000) / 0x400).toUInt16
        (0xDC00 + (c.toNat - 0x10000) % 0x400).toUInt16 = c := by
      have hvalue : 0x10000 + (0xD800 + (c.toNat - 0x10000) / 0x400 - 0xD800) * 0x400
          + (0xDC00 + (c.toNat - 0x10000) % 0x400 - 0xDC00) = c.toNat := by omega
      rw [combine, hhigh, hlow, hvalue, Char.ofNat_toNat]
    rw [List.cons_append, List.cons_append, List.nil_append,
      ofUnits?_cons_of_pair (isHigh_iff.mpr (by omega)) (isLow_iff.mpr (by omega)), hcombine]

/-! ## Texts -/

lemma units_cons (c : Char) (cs : List Char) : units (c :: cs) = unitsOfChar c ++ units cs :=
  List.flatMap_cons

/-- **A text is read back from its units.** -/
lemma ofUnits?_units (cs : List Char) : ofUnits? (units cs) = some cs := by
  induction cs with
  | nil => rfl
  | cons c cs ih => rw [units_cons, ofUnits?_append, ih, Option.map_some]

/-- How many units a text has: two for a character beyond the Basic Multilingual Plane, and one for
every other. -/
def unitCount : List Char → Nat
  | [] => 0
  | c :: cs => (if c.toNat < 0x10000 then 1 else 2) + unitCount cs

lemma length_unitsOfChar (c : Char) :
    (unitsOfChar c).length = if c.toNat < 0x10000 then 1 else 2 := by
  unfold unitsOfChar
  dsimp only
  split_ifs <;> rfl

lemma length_units (cs : List Char) : (units cs).length = unitCount cs := by
  induction cs with
  | nil => rfl
  | cons c cs ih => rw [units_cons, List.length_append, length_unitsOfChar, ih, unitCount]

/-! ## Bytes -/

lemma toBytes_cons (u : UInt16) (us : List UInt16) :
    toBytes (u :: us) = u.toUInt8 :: (u >>> 8).toUInt8 :: toBytes us := rfl

lemma length_toBytes (us : List UInt16) : (toBytes us).length = 2 * us.length := by
  induction us with
  | nil => rfl
  | cons u us ih =>
      rw [toBytes_cons, List.length_cons, List.length_cons, List.length_cons, ih]
      omega

/-- A unit from its low byte and its high one. -/
lemma ofBytes_unit (u : UInt16) :
    u.toUInt8.toUInt16 + (256 : UInt16) * (u >>> 8).toUInt8.toUInt16 = u := by
  have hu := u.toNat_lt
  have hshift : u.toNat >>> 8 = u.toNat / 256 := Nat.shiftRight_eq_div_pow _ 8
  apply UInt16.toNat_inj.mp
  simp only [UInt16.toNat_add, UInt16.toNat_mul, UInt8.toNat_toUInt16, UInt16.toNat_toUInt8,
    UInt16.toNat_shiftRight, UInt16.reduceToNat, Nat.reduceMod, hshift]
  omega

/-- **Units are read back from their bytes.** -/
lemma ofBytes?_toBytes (us : List UInt16) : ofBytes? (toBytes us) = some us := by
  induction us with
  | nil => rfl
  | cons u us ih => rw [toBytes_cons, ofBytes?, ih, Option.map_some, ofBytes_unit]

end AgentLaunch.Utf16
