import AgentLaunch.Proofs.Text.Utf8
import Mathlib.Tactic.Common

/-!
# Lossy decoding, piece by piece

A byte below 80 is a character of its own wherever it stands: it neither leads to more bytes nor
follows others, not even in what is not UTF-8.  What comes before it is therefore decoded as if it
were everything, and so is what comes after it.  The other way round, a line feed that is read was a
line feed byte, as no longer sequence stands for so small a character.

* `segments_append_cons` — such a byte cuts a byte string, and its pieces with it.
* **`decodeLossyChars_append_lineFeed`** — what is around a line feed is decoded on its own.
* **`lineFeed_not_mem_decodeLossyChars`** — there is no other way to read a line feed.

The first statement is about the pieces into which a byte string is cut before any of them is
decoded, so it needs no case distinction between what is UTF-8 and what is not.  The proof is by the
induction of `segments`, one piece at a time: no piece reaches from before the small byte to behind
it, since that is in none of the bounds for a byte that continues a character.
-/

namespace AgentLaunch.Utf8

/-! ## A byte below 80 cuts -/

section Cut

variable {b : UInt8}

lemma takeTail_append_cons {low high : UInt8} (hb : b.toNat < 0x80) (hlow : 0x80 ≤ low.toNat)
    (n : Nat) (bs rest : Bytes) :
    takeTail low high n (bs ++ b :: rest)
      = ((takeTail low high n bs).1, (takeTail low high n bs).2 ++ b :: rest) := by
  induction n generalizing low high bs with
  | zero => rfl
  | succ n ih =>
      cases bs with
      | nil =>
          have hlt : ¬(low ≤ b ∧ b ≤ high) := by
            intro h
            have := UInt8.le_iff_toNat_le.mp h.1
            omega
          show takeTail low high (n + 1) (b :: rest) = ([], b :: rest)
          rw [takeTail, if_neg hlt]
      | cons c bs =>
          rw [List.cons_append, takeTail, takeTail]
          split
          · rw [ih (by decide)]
          · rfl

lemma firstSegment_append_cons (hb : b.toNat < 0x80) (lead : UInt8) (bs rest : Bytes) :
    firstSegment lead (bs ++ b :: rest)
      = ((firstSegment lead bs).1, (firstSegment lead bs).2 ++ b :: rest) := by
  unfold firstSegment
  cases tailLength lead with
  | none => rfl
  | some n =>
      have hlow : 0x80 ≤ (secondLow lead).toNat := by
        rw [toNat_secondLow]
        split_ifs <;> omega
      simp only [takeTail_append_cons hb hlow]
      split <;> rfl

lemma firstSegment_of_lt (hb : b.toNat < 0x80) (bs : Bytes) :
    firstSegment b bs = (.char (Char.ofNat b.toNat), bs) := by
  have htail : tailLength b = some 0 := by
    rw [tailLength_eq, if_pos hb]
  simp [firstSegment, htail, takeTail, assemble]

/-- **A byte below 80 is a piece of its own**, between the pieces before it and those after it. -/
lemma segments_append_cons (hb : b.toNat < 0x80) (bs rest : Bytes) :
    segments (bs ++ b :: rest) = segments bs ++ .char (Char.ofNat b.toNat) :: segments rest := by
  induction bs using segments.induct with
  | case1 =>
      have hnil : segments [] = [] := by rw [segments]
      rw [List.nil_append, hnil, List.nil_append, segments, firstSegment_of_lt hb]
  | case2 lead bs piece _ ih =>
      rw [List.cons_append, segments, firstSegment_append_cons hb, ih, segments, List.cons_append]

end Cut

/-- **What is around a line feed is decoded on its own.** -/
lemma decodeLossyChars_append_lineFeed (bs rest : Bytes) :
    decodeLossyChars (bs ++ 0x0A :: rest)
      = decodeLossyChars bs ++ '\n' :: decodeLossyChars rest := by
  rw [decodeLossyChars, segments_append_cons (by decide), List.map_append]
  rfl

/-! ## Where line feeds come from -/

lemma takeTail_suffix (low high : UInt8) (n : Nat) (bs : Bytes) :
    (takeTail low high n bs).2 <:+ bs := by
  induction n generalizing low high bs with
  | zero => exact List.suffix_rfl
  | succ n ih =>
      cases bs with
      | nil => exact List.suffix_rfl
      | cons c bs =>
          rw [takeTail]
          split
          · exact (ih _ _ bs).trans (List.suffix_cons c bs)
          · exact List.suffix_rfl

lemma firstSegment_suffix (lead : UInt8) (bs : Bytes) : (firstSegment lead bs).2 <:+ bs := by
  unfold firstSegment
  cases tailLength lead with
  | none => exact List.suffix_rfl
  | some n =>
      have := takeTail_suffix (secondLow lead) (secondHigh lead) n bs
      dsimp only
      split <;> exact this

/-- The first byte that is taken is in its bounds. -/
lemma le_of_takeTail_eq_cons {low high c : UInt8} {n : Nat} {bs tail : Bytes}
    (h : (takeTail low high n bs).1 = c :: tail) : low.toNat ≤ c.toNat := by
  cases n with
  | zero => simp [takeTail] at h
  | succ n =>
      cases bs with
      | nil => simp [takeTail] at h
      | cons d bs =>
          rw [takeTail] at h
          split at h
          · next hd =>
            obtain ⟨rfl, -⟩ := List.cons.inj h
            exact UInt8.le_iff_toNat_le.mp hd.1
          · cases h

lemma le_foldl_payload (tail : Bytes) (n : Nat) :
    n ≤ tail.foldl (fun n b => n * 64 + (b.toNat - 0x80)) n := by
  induction tail generalizing n with
  | nil => exact Nat.le_refl n
  | cons b tail ih =>
      have := ih (n * 64 + (b.toNat - 0x80))
      rw [List.foldl_cons]
      omega

lemma eq_of_ofNat_eq_lineFeed {v : Nat} (h : Char.ofNat v = '\n') : v = 0x0A := by
  rw [Char.ofNat] at h
  by_cases hvalid : v.isValidChar
  · rw [dif_pos hvalid] at h
    exact congrArg Char.toNat h
  · rw [dif_neg hvalid] at h
    cases h

/-- The payloads of the first two bytes of a longer sequence. -/
lemma le_payload_two {lead c : UInt8} {n : Nat} (htail : tailLength lead = some (n + 1))
    (hsecond : (secondLow lead).toNat ≤ c.toNat) :
    0x10 ≤ leadPayload lead (n + 1) * 64 + (c.toNat - 0x80) := by
  rw [toNat_secondLow] at hsecond
  rw [tailLength_eq] at htail
  split_ifs at htail with h₀ h₁ h₂ h₃ h₄
  · cases htail
  · obtain rfl : 0 = n := Nat.succ.inj (Option.some.inj htail)
    show 0x10 ≤ (lead.toNat - 0xC0) * 64 + (c.toNat - 0x80)
    omega
  · obtain rfl : 1 = n := Nat.succ.inj (Option.some.inj htail)
    show 0x10 ≤ (lead.toNat - 0xE0) * 64 + (c.toNat - 0x80)
    split_ifs at hsecond <;> omega
  · obtain rfl : 2 = n := Nat.succ.inj (Option.some.inj htail)
    show 0x10 ≤ (lead.toNat - 0xF0) * 64 + (c.toNat - 0x80)
    split_ifs at hsecond <;> omega

/-- **Only the line feed byte is read as a line feed.** -/
lemma assemble_ne_lineFeed {lead : UInt8} {n : Nat} {bs : Bytes} (hlead : lead ≠ 0x0A)
    (htail : tailLength lead = some n)
    (hlen : (takeTail (secondLow lead) (secondHigh lead) n bs).1.length = n) :
    assemble lead (takeTail (secondLow lead) (secondHigh lead) n bs).1 ≠ '\n' := by
  intro h
  generalize htaken : (takeTail (secondLow lead) (secondHigh lead) n bs).1 = taken at h hlen
  have hvalue : taken.foldl (fun n b => n * 64 + (b.toNat - 0x80)) (leadPayload lead taken.length)
      = 0x0A := eq_of_ofNat_eq_lineFeed h
  rw [hlen] at hvalue
  cases taken with
  | nil =>
      subst hlen
      exact hlead (UInt8.toNat_inj.mp hvalue)
  | cons c tail =>
      subst hlen
      have htwo := le_payload_two htail (le_of_takeTail_eq_cons htaken)
      have hmore := le_foldl_payload tail
        (leadPayload lead (tail.length + 1) * 64 + (c.toNat - 0x80))
      rw [List.foldl_cons, List.length_cons] at hvalue
      omega

lemma firstSegment_ne_lineFeed {lead : UInt8} (hlead : lead ≠ 0x0A) (bs : Bytes) :
    (firstSegment lead bs).1.shown ≠ '\n' := by
  have hbroken : Segment.broken.shown ≠ '\n' := by decide
  unfold firstSegment
  cases htail : tailLength lead with
  | none => exact hbroken
  | some n =>
      dsimp only
      split
      · next hlen => exact assemble_ne_lineFeed hlead htail hlen
      · exact hbroken

/-- **Without a line feed byte no line feed is read.** -/
lemma lineFeed_not_mem_decodeLossyChars {bs : Bytes} (hbs : 0x0A ∉ bs) :
    '\n' ∉ decodeLossyChars bs := by
  rw [decodeLossyChars]
  induction bs using segments.induct with
  | case1 => simp [segments]
  | case2 lead bs piece _ ih =>
      have hlead : lead ≠ 0x0A := fun h => hbs (h ▸ List.mem_cons_self)
      have hrest : 0x0A ∉ piece.2 := fun h =>
        hbs (List.mem_cons_of_mem _ ((firstSegment_suffix lead bs).subset h))
      rw [segments, List.map_cons, List.mem_cons, not_or]
      exact ⟨(firstSegment_ne_lineFeed hlead bs).symm, ih hrest⟩

end AgentLaunch.Utf8
