/-!
# UTF-8

Texts leave this library as UTF-8 bytes and come back as such.  A byte string that is not UTF-8
is read in one of two ways: files and passwords are refused, program output is shown with each
*maximal subpart* of an ill-formed sequence replaced by one U+FFFD, as the Unicode standard
recommends.

Both readings come from one function, `segments`, which cuts a byte string into well-formed
characters and such broken subparts; `decode?` demands that there is no broken part, and
`decodeLossy` replaces them.
-/

namespace AgentLaunch

/-- Byte strings: contents of files, and what streams carry. -/
abbrev Bytes := List UInt8

namespace Utf8

/-! ## Writing -/

def encode (s : String) : Bytes :=
  s.toList.flatMap String.utf8EncodeChar

/-! ## The shape of a character -/

/-- How many bytes follow a leading byte, if it can lead at all. -/
def tailLength (lead : UInt8) : Option Nat :=
  if lead < 0x80 then some 0
  else if lead < 0xC2 then none
  else if lead < 0xE0 then some 1
  else if lead < 0xF0 then some 2
  else if lead < 0xF5 then some 3
  else none

/-- The least byte that may follow a leading byte.  The bounds after E0 and F0 keep out
characters that have a shorter form. -/
def secondLow (lead : UInt8) : UInt8 :=
  if lead = 0xE0 then 0xA0 else if lead = 0xF0 then 0x90 else 0x80

/-- The greatest byte that may follow a leading byte.  The bound after ED keeps out surrogates,
the one after F4 what lies above U+10FFFF. -/
def secondHigh (lead : UInt8) : UInt8 :=
  if lead = 0xED then 0x9F else if lead = 0xF4 then 0x8F else 0xBF

/-- At most `n` bytes of a tail whose first byte lies between `low` and `high` and whose others
lie between 80 and BF, and what comes after them. -/
def takeTail (low high : UInt8) : Nat → Bytes → Bytes × Bytes
  | 0, bs => ([], bs)
  | _ + 1, [] => ([], [])
  | n + 1, b :: bs =>
    if low ≤ b ∧ b ≤ high then
      let (tail, rest) := takeTail 0x80 0xBF n bs
      (b :: tail, rest)
    else ([], b :: bs)

theorem takeTail_rest_length (low high : UInt8) (n : Nat) (bs : Bytes) :
    (takeTail low high n bs).2.length ≤ bs.length := by
  induction n generalizing low high bs with
  | zero => simp [takeTail]
  | succ n ih =>
    cases bs with
    | nil => simp [takeTail]
    | cons b bs =>
      simp only [takeTail]
      split
      · have := ih 0x80 0xBF bs
        simp only [List.length_cons]
        omega
      · simp

/-- The character that a leading byte and a tail of the right length stand for. -/
def assemble (lead : UInt8) (tail : Bytes) : Char :=
  let payload := match tail.length with
    | 0 => lead.toNat
    | 1 => lead.toNat - 0xC0
    | 2 => lead.toNat - 0xE0
    | _ => lead.toNat - 0xF0
  Char.ofNat (tail.foldl (fun n b => n * 64 + (b.toNat - 0x80)) payload)

/-! ## Reading -/

/-- A piece of a byte string: a character, or a maximal subpart of an ill-formed sequence. -/
inductive Segment where
  | char (c : Char)
  | broken
  deriving DecidableEq, Repr

/-- The piece that starts with a given byte, and what comes after it. -/
def firstSegment (lead : UInt8) (bs : Bytes) : Segment × Bytes :=
  match tailLength lead with
  | none => (.broken, bs)
  | some n =>
    let (tail, rest) := takeTail (secondLow lead) (secondHigh lead) n bs
    if tail.length = n then (.char (assemble lead tail), rest) else (.broken, rest)

theorem firstSegment_rest_length (lead : UInt8) (bs : Bytes) :
    (firstSegment lead bs).2.length ≤ bs.length := by
  unfold firstSegment
  cases tailLength lead with
  | none => simp
  | some n =>
    have := takeTail_rest_length (secondLow lead) (secondHigh lead) n bs
    simp only
    split <;> simpa using this

def segments : Bytes → List Segment
  | [] => []
  | lead :: bs =>
    let piece := firstSegment lead bs
    have := firstSegment_rest_length lead bs
    piece.1 :: segments piece.2
  termination_by bs => bs.length

def replacement : Char := '\uFFFD'

/-- The character shown for a piece. -/
def Segment.shown : Segment → Char
  | .char c => c
  | .broken => replacement

def Segment.char? : Segment → Option Char
  | .char c => some c
  | .broken => none

/-- The characters of a byte string, with U+FFFD for every broken subpart. -/
def decodeLossyChars (bs : Bytes) : List Char :=
  (segments bs).map Segment.shown

def decodeLossy (bs : Bytes) : String :=
  String.ofList (decodeLossyChars bs)

/-- The text of a byte string that is well-formed UTF-8. -/
def decode? (bs : Bytes) : Option String :=
  ((segments bs).mapM Segment.char?).map String.ofList

end Utf8

end AgentLaunch
