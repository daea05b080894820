import AgentLaunch.Document
import AgentLaunch.Text.Utf8
import AgentLaunch.Text.Utf16

/-!
# JSON

Which document a JSON text denotes.  The text is read as bytes, because a cloud answer is; the
grammar is that of RFC 8259.  A string that is written correctly but stands for no text (it holds
half of a surrogate pair, or bytes that are not UTF-8) is still a string, and an error only where
somebody needs its text.

An integer is written without fraction and exponent and lies between -2^63 and 2^64 - 1; every
other number, `-0` included, is a float.
-/

namespace AgentLaunch.Json

/-! ## Characters -/

def isSpace (b : UInt8) : Bool :=
  b == 0x20 || b == 0x09 || b == 0x0A || b == 0x0D

def isDigit (b : UInt8) : Bool :=
  0x30 ≤ b && b ≤ 0x39

def hexValue? (b : UInt8) : Option Nat :=
  if 0x30 ≤ b ∧ b ≤ 0x39 then some (b.toNat - 0x30)
  else if 0x41 ≤ b ∧ b ≤ 0x46 then some (b.toNat - 0x41 + 10)
  else if 0x61 ≤ b ∧ b ≤ 0x66 then some (b.toNat - 0x61 + 10)
  else none

def skipSpace (bs : Bytes) : Bytes :=
  bs.dropWhile isSpace

/-! ## Strings -/

/-- A piece of a string: a byte as it stands, or a code unit written as an escape. -/
inductive Piece where
  | byte (b : UInt8)
  | unit (u : UInt16)
  deriving DecidableEq, Repr

def shortEscape? (b : UInt8) : Option Piece :=
  if b = 0x22 ∨ b = 0x5C ∨ b = 0x2F then some (.byte b)
  else if b = 0x62 then some (.byte 0x08)
  else if b = 0x66 then some (.byte 0x0C)
  else if b = 0x6E then some (.byte 0x0A)
  else if b = 0x72 then some (.byte 0x0D)
  else if b = 0x74 then some (.byte 0x09)
  else none

/-- The code unit of four hexadecimal digits. -/
def unitOfHex? (a b c d : UInt8) : Option UInt16 := do
  let a ← hexValue? a
  let b ← hexValue? b
  let c ← hexValue? c
  let d ← hexValue? d
  pure (a * 4096 + b * 256 + c * 16 + d).toUInt16

/-- The rest of a string whose opening quote is read: its pieces, and what comes after it. -/
def readString? : Bytes → Option (List Piece × Bytes)
  | [] => none
  | 0x22 :: rest => some ([], rest)
  | 0x5C :: 0x75 :: a :: b :: c :: d :: rest => do
    let u ← unitOfHex? a b c d
    let (pieces, rest) ← readString? rest
    pure (.unit u :: pieces, rest)
  | 0x5C :: b :: rest => do
    let piece ← shortEscape? b
    let (pieces, rest) ← readString? rest
    pure (piece :: pieces, rest)
  | b :: rest =>
    if b < 0x20 ∨ b = 0x5C then none
    else do
      let (pieces, rest) ← readString? rest
      pure (.byte b :: pieces, rest)

/-- The bytes of a string's text, unless half of a surrogate pair stands alone. -/
def piecesBytes? : List Piece → Option Bytes
  | [] => some []
  | .byte b :: rest => (piecesBytes? rest).map (b :: ·)
  | .unit u :: rest =>
    if Utf16.isHigh u then
      match rest with
      | .unit v :: more =>
        if Utf16.isLow v then
          (piecesBytes? more).map (String.utf8EncodeChar (Utf16.combine u v) ++ ·)
        else none
      | _ => none
    else if Utf16.isLow u then none
    else (piecesBytes? rest).map (String.utf8EncodeChar (Char.ofNat u.toNat) ++ ·)

def piecesText? (pieces : List Piece) : Option String :=
  (piecesBytes? pieces).bind Utf8.decode?

/-! ## Numbers -/

def natOfDigits (digits : Bytes) : Nat :=
  digits.foldl (fun n b => n * 10 + (b.toNat - 0x30)) 0

/-- The document of an integer's sign and digits. -/
def integerDocument (negative : Bool) (n : Nat) : Document :=
  if negative then
    if n = 0 ∨ Nat.pow 2 63 < n then .float else .int (-n)
  else if n < Nat.pow 2 64 then .int n
  else .float

/-- The digits of an integer part: a zero, or digits that do not start with one. -/
def readIntegerPart? (bs : Bytes) : Option (Bytes × Bytes) :=
  match bs with
  | 0x30 :: rest => some ([0x30], rest)
  | _ =>
    let digits := bs.takeWhile isDigit
    if digits.isEmpty then none else some (digits, bs.dropWhile isDigit)

/-- What comes after a fraction, if there is one and it has digits. -/
def skipFraction? : Bytes → Option (Bool × Bytes)
  | 0x2E :: rest =>
    if (rest.takeWhile isDigit).isEmpty then none else some (true, rest.dropWhile isDigit)
  | bs => some (false, bs)

/-- What comes after the digits of an exponent, if there are any. -/
def skipExponentDigits? (bs : Bytes) : Option (Bool × Bytes) :=
  if (bs.takeWhile isDigit).isEmpty then none else some (true, bs.dropWhile isDigit)

/-- What comes after an exponent, if there is one and it has digits. -/
def skipExponent? : Bytes → Option (Bool × Bytes)
  | b :: rest =>
    if b = 0x65 ∨ b = 0x45 then
      match rest with
      | 0x2B :: more => skipExponentDigits? more
      | 0x2D :: more => skipExponentDigits? more
      | _ => skipExponentDigits? rest
    else some (false, b :: rest)
  | [] => some (false, [])

def readNumber? (bs : Bytes) : Option (Document × Bytes) := do
  let negative := bs.head? == some 0x2D
  let (digits, rest) ← readIntegerPart? (if negative then bs.drop 1 else bs)
  let (fraction, rest) ← skipFraction? rest
  let (exponent, rest) ← skipExponent? rest
  let document :=
    if fraction || exponent then .float else integerDocument negative (natOfDigits digits)
  pure (document, rest)

/-! ## Values

The readers below count down while they descend.  Every step down has read a byte, so the length of
the text is more than enough.
-/

def skipWord? (word : String) (bs : Bytes) : Option Bytes :=
  let expected := Utf8.encode word
  if expected.isPrefixOf bs then some (bs.drop expected.length) else none

mutual

/-- The value at the start of a text, and what comes after it.  The number bounds how deep the value
goes and how many items its lists have; the length of the text suffices. -/
def readValue? : Nat → Bytes → Option (Document × Bytes)
  | 0, _ => none
  | depth + 1, bs =>
    match skipSpace bs with
    | 0x6E :: rest => (skipWord? "ull" rest).map (.null, ·)
    | 0x74 :: rest => (skipWord? "rue" rest).map (.bool true, ·)
    | 0x66 :: rest => (skipWord? "alse" rest).map (.bool false, ·)
    | 0x22 :: rest => do
      let (pieces, rest) ← readString? rest
      pure (.text (piecesText? pieces), rest)
    | 0x5B :: rest =>
      match skipSpace rest with
      | 0x5D :: rest => some (.list [], rest)
      | _ => do
        let (items, rest) ← readItems? depth rest
        pure (.list items, rest)
    | 0x7B :: rest =>
      match skipSpace rest with
      | 0x7D :: rest => some (.table [], rest)
      | _ => do
        let (entries, rest) ← readEntries? depth rest
        pure (.table entries, rest)
    | bs => readNumber? bs

def readItems? : Nat → Bytes → Option (List Document × Bytes)
  | 0, _ => none
  | depth + 1, bs => do
    let (item, rest) ← readValue? depth bs
    match skipSpace rest with
    | 0x2C :: rest =>
      let (items, rest) ← readItems? depth rest
      pure (item :: items, rest)
    | 0x5D :: rest => pure ([item], rest)
    | _ => none

def readEntries? : Nat → Bytes → Option (List (Option String × Document) × Bytes)
  | 0, _ => none
  | depth + 1, bs =>
    match skipSpace bs with
    | 0x22 :: rest => do
      let (pieces, rest) ← readString? rest
      match skipSpace rest with
      | 0x3A :: rest =>
        let (value, rest) ← readValue? depth rest
        let entry := (piecesText? pieces, value)
        match skipSpace rest with
        | 0x2C :: rest =>
          let (entries, rest) ← readEntries? depth rest
          pure (entry :: entries, rest)
        | 0x7D :: rest => pure ([entry], rest)
        | _ => none
      | _ => none
    | _ => none

end

/-- The document that a text denotes: one value, with nothing but white space around it. -/
def read? (bs : Bytes) : Option Document := do
  let (document, rest) ← readValue? (bs.length + 1) bs
  if (skipSpace rest).isEmpty then pure document else none

end AgentLaunch.Json
