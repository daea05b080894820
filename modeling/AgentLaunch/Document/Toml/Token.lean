import AgentLaunch.Document

/-!
# Plain values of TOML

How TOML writes strings, numbers, dates and truth values, and the names of keys.  Every reader here
takes the characters of a text and gives what it has read together with the characters after it,
or nothing if the text is no TOML.

Numbers are told apart by how they begin: four digits and a hyphen make a date, two digits and a
colon a time, `0x`, `0o` and `0b` an integer to another base; a fraction or an exponent makes a
float.
-/

namespace AgentLaunch.Toml

/-! ## Characters -/

def isBlank (c : Char) : Bool :=
  c == ' ' || c == '\t'

/-- Characters that may stand in a comment: all but control characters, a tab excepted. -/
def isPlain (c : Char) : Bool :=
  c == '\t' || (0x20 ≤ c.toNat && c.toNat ≠ 0x7F)

def isKeyChar (c : Char) : Bool :=
  ('a' ≤ c && c ≤ 'z') || ('A' ≤ c && c ≤ 'Z') || ('0' ≤ c && c ≤ '9') || c == '_' || c == '-'

/-- The value of a digit to a base of at most sixteen. -/
def digitValue? (base : Nat) (c : Char) : Option Nat :=
  let value :=
    if '0' ≤ c ∧ c ≤ '9' then c.toNat - '0'.toNat
    else if 'a' ≤ c ∧ c ≤ 'f' then c.toNat - 'a'.toNat + 10
    else if 'A' ≤ c ∧ c ≤ 'F' then c.toNat - 'A'.toNat + 10
    else base
  if value < base then some value else none

def isDigit (base : Nat) (c : Char) : Bool :=
  (digitValue? base c).isSome

def numberOf (base : Nat) (digits : List Char) : Nat :=
  digits.foldl (fun n c => n * base + (digitValue? base c).getD 0) 0

def skipBlanks (cs : List Char) : List Char :=
  cs.dropWhile isBlank

def skipNewline? : List Char → Option (List Char)
  | '\n' :: rest => some rest
  | '\r' :: '\n' :: rest => some rest
  | _ => none

/-- What comes after a comment, if there is one here. -/
def skipComment : List Char → List Char
  | '#' :: rest => rest.dropWhile isPlain
  | cs => cs

def skipWord? (word : String) (cs : List Char) : Option (List Char) :=
  if word.toList.isPrefixOf cs then some (cs.drop word.length) else none

/-! ## Strings -/

/-- The character of an escape with that many hexadecimal digits, and what comes after it. -/
def readCodePoint? (width : Nat) (cs : List Char) : Option (Char × List Char) :=
  let digits := (cs.take width).takeWhile (isDigit 16)
  let n := numberOf 16 digits
  if digits.length = width ∧ n.isValidChar then some (Char.ofNat n, cs.drop width) else none

/-- The character of an escape whose backslash is read, and what comes after it. -/
def readEscape? : List Char → Option (Char × List Char)
  | 'b' :: rest => some ('\x08', rest)
  | 't' :: rest => some ('\t', rest)
  | 'n' :: rest => some ('\n', rest)
  | 'f' :: rest => some ('\x0c', rest)
  | 'r' :: rest => some ('\r', rest)
  | '"' :: rest => some ('"', rest)
  | '\\' :: rest => some ('\\', rest)
  | 'u' :: rest => readCodePoint? 4 rest
  | 'U' :: rest => readCodePoint? 8 rest
  | _ => none

def skipWhite : List Char → List Char
  | [] => []
  | '\r' :: '\n' :: rest => skipWhite rest
  | c :: rest => if isBlank c || c == '\n' then skipWhite rest else c :: rest

/-- What comes after a backslash at the end of a line, if only blanks stand between them: all blanks
and line ends that follow are passed over. -/
def skipFoldedLines? (cs : List Char) : Option (List Char) :=
  (skipNewline? (skipBlanks cs)).map skipWhite

/-- The rest of a one-line string; `escapes` tells whether a backslash is special.  The first number
bounds the characters to be read. -/
def readLine? (quote : Char) (escapes : Bool) : Nat → List Char → Option (List Char × List Char)
  | 0, _ => none
  | _ + 1, [] => none
  | n + 1, c :: cs =>
    if c = quote then some ([], cs)
    else if c = '\\' ∧ escapes then do
      let (d, rest) ← readEscape? cs
      let (text, rest) ← readLine? quote escapes n rest
      pure (d :: text, rest)
    else if isPlain c then (readLine? quote escapes n cs).map fun (text, rest) => (c :: text, rest)
    else none

/-- The rest of a string of several lines.  One or two quotes inside stand for themselves; the last
three of a run of up to five end the string. -/
def readLines? (quote : Char) (escapes : Bool) : Nat → List Char → Option (List Char × List Char)
  | 0, _ => none
  | _ + 1, [] => none
  | n + 1, c :: cs =>
    if c = quote then
      let run := 1 + (cs.takeWhile (· == quote)).length
      if run < 3 then (readLines? quote escapes n cs).map fun (text, rest) => (c :: text, rest)
      else if run ≤ 5 then some (List.replicate (run - 3) quote, cs.drop (run - 1))
      else none
    else if c = '\\' ∧ escapes then
      match skipFoldedLines? cs with
      | some rest => readLines? quote escapes n rest
      | none => do
        let (d, rest) ← readEscape? cs
        let (text, rest) ← readLines? quote escapes n rest
        pure (d :: text, rest)
    else
      match skipNewline? (c :: cs) with
      | some rest => (readLines? quote escapes n rest).map fun (text, rest) => ('\n' :: text, rest)
      | none =>
        if isPlain c then
          (readLines? quote escapes n cs).map fun (text, rest) => (c :: text, rest)
        else none

def readString? (cs : List Char) : Option (String × List Char) :=
  let fuel := cs.length + 1
  let result := match cs with
    | '"' :: '"' :: '"' :: rest => readLines? '"' true fuel ((skipNewline? rest).getD rest)
    | '\'' :: '\'' :: '\'' :: rest => readLines? '\'' false fuel ((skipNewline? rest).getD rest)
    | '"' :: rest => readLine? '"' true fuel rest
    | '\'' :: rest => readLine? '\'' false fuel rest
    | _ => none
  result.map fun (text, rest) => (String.ofList text, rest)

/-- One part of a key: a quoted string of one line, or a bare name. -/
def readKeyPart? (cs : List Char) : Option (String × List Char) :=
  let fuel := cs.length + 1
  let result := match cs with
    | '"' :: rest => readLine? '"' true fuel rest
    | '\'' :: rest => readLine? '\'' false fuel rest
    | _ =>
      let name := cs.takeWhile isKeyChar
      if name.isEmpty then none else some (name, cs.dropWhile isKeyChar)
  result.map fun (text, rest) => (String.ofList text, rest)

/-! ## Digits -/

/-- More digits of a number, with single underscores between them. -/
def readMoreDigits? (base : Nat) : List Char → Option (List Char × List Char)
  | [] => some ([], [])
  | '_' :: c :: cs =>
    if isDigit base c then
      (readMoreDigits? base cs).map fun (digits, rest) => (c :: digits, rest)
    else none
  | c :: cs =>
    if isDigit base c then
      (readMoreDigits? base cs).map fun (digits, rest) => (c :: digits, rest)
    else if c = '_' then none
    else some ([], c :: cs)

/-- Digits of a number, at least one. -/
def readDigits? (base : Nat) : List Char → Option (List Char × List Char)
  | [] => none
  | c :: cs =>
    if isDigit base c then
      (readMoreDigits? base cs).map fun (digits, rest) => (c :: digits, rest)
    else none

/-- The digits before the point: a zero alone, or digits that do not start with one. -/
def readWhole? : List Char → Option (List Char × List Char)
  | '0' :: rest => some (['0'], rest)
  | cs => readDigits? 10 cs

/-- An optional sign: whether it is a minus. -/
def readSign : List Char → Bool × List Char
  | '-' :: rest => (true, rest)
  | '+' :: rest => (false, rest)
  | cs => (false, cs)

/-! ## Dates and times -/

/-- A number of exactly so many digits within bounds. -/
def readFixed? (width low high : Nat) (cs : List Char) : Option (Nat × List Char) :=
  let digits := (cs.take width).takeWhile (isDigit 10)
  let n := numberOf 10 digits
  if digits.length = width ∧ low ≤ n ∧ n ≤ high then some (n, cs.drop width) else none

def skipChar? (c : Char) : List Char → Option (List Char)
  | d :: rest => if d = c then some rest else none
  | [] => none

def monthLength (year month : Nat) : Nat :=
  if month = 2 then (if year % 4 = 0 ∧ (year % 100 ≠ 0 ∨ year % 400 = 0) then 29 else 28)
  else if month = 4 ∨ month = 6 ∨ month = 9 ∨ month = 11 then 30
  else 31

def skipDate? (cs : List Char) : Option (List Char) := do
  let (year, rest) ← readFixed? 4 0 9999 cs
  let rest ← skipChar? '-' rest
  let (month, rest) ← readFixed? 2 1 12 rest
  let rest ← skipChar? '-' rest
  let (_, rest) ← readFixed? 2 1 (monthLength year month) rest
  pure rest

def skipFraction (cs : List Char) : List Char :=
  match cs with
  | '.' :: rest =>
    let after := rest.dropWhile (isDigit 10)
    if after.length < rest.length then after else cs
  | _ => cs

def skipTime? (cs : List Char) : Option (List Char) := do
  let (_, rest) ← readFixed? 2 0 23 cs
  let rest ← skipChar? ':' rest
  let (_, rest) ← readFixed? 2 0 59 rest
  let rest ← skipChar? ':' rest
  let (_, rest) ← readFixed? 2 0 60 rest
  pure (skipFraction rest)

/-- What comes after the hours and minutes of an offset. -/
def skipOffsetTime? (cs : List Char) : Option (List Char) := do
  let (_, rest) ← readFixed? 2 0 23 cs
  let rest ← skipChar? ':' rest
  let (_, rest) ← readFixed? 2 0 59 rest
  pure rest

/-- What comes after an offset from UTC, if there is one; none if it is broken. -/
def skipOffset? : List Char → Option (List Char)
  | 'Z' :: rest => some rest
  | 'z' :: rest => some rest
  | '+' :: rest => skipOffsetTime? rest
  | '-' :: rest => skipOffsetTime? rest
  | cs => some cs

/-- Whether a time of day starts here, to judge by its first three characters. -/
def startsTime (cs : List Char) : Bool :=
  match readFixed? 2 0 99 cs with
  | some (_, ':' :: _) => true
  | _ => false

/-- Whether a date starts here, to judge by its first five characters. -/
def startsDate (cs : List Char) : Bool :=
  match readFixed? 4 0 9999 cs with
  | some (_, '-' :: _) => true
  | _ => false

/-- What comes after the time of day that follows a date, if one does. -/
def skipTimeAfterDate? : List Char → Option (List Char)
  | c :: rest =>
    if (c = 'T' ∨ c = 't' ∨ c = ' ') ∧ startsTime rest then
      (skipTime? rest).bind skipOffset?
    else some (c :: rest)
  | [] => some []

/-! ## Numbers -/

/-- The least number that is too large for a float of 64 bits: half a unit above the greatest. -/
def floatBound : Nat :=
  (Nat.pow 2 54 - 1) * Nat.pow 2 970

/-- Whether digits times a power of ten exceed all floats. -/
def exceedsFloats (digits : List Char) (exponent : Int) : Bool :=
  let n := numberOf 10 digits
  let magnitude : Int := (digits.dropWhile (· == '0')).length + exponent
  if n = 0 ∨ magnitude < 300 then false
  else if 400 < magnitude then true
  else if 0 ≤ exponent then floatBound ≤ n * Nat.pow 10 exponent.toNat
  else floatBound * Nat.pow 10 (-exponent).toNat ≤ n

/-- The digits of a fraction, if there is one: whether there is, the digits, and the rest. -/
def readFraction? : List Char → Option (Bool × List Char × List Char)
  | '.' :: rest => (readDigits? 10 rest).map fun (digits, rest) => (true, digits, rest)
  | cs => some (false, [], cs)

/-- An exponent, if there is one: whether there is, its value, and the rest. -/
def readExponent? : List Char → Option (Bool × Int × List Char)
  | c :: rest =>
    if c = 'e' ∨ c = 'E' then
      let (negative, rest) := readSign rest
      (readDigits? 10 rest).map fun (digits, rest) =>
        let n : Int := numberOf 10 digits
        (true, if negative then -n else n, rest)
    else some (false, 0, c :: rest)
  | [] => some (false, 0, [])

/-- An integer, if it has 64 bits. -/
def integer? (n : Int) : Option Document :=
  if Document.isSigned64 n then some (.int n) else none

def readDecimal? (cs : List Char) : Option (Document × List Char) := do
  let (negative, rest) := readSign cs
  let (whole, rest) ← readWhole? rest
  let (hasFraction, fraction, rest) ← readFraction? rest
  let (hasExponent, exponent, rest) ← readExponent? rest
  if hasFraction || hasExponent then
    if !negative && exceedsFloats (whole ++ fraction) (exponent - fraction.length) then none
    else pure (.float, rest)
  else
    let n : Int := numberOf 10 whole
    let document ← integer? (if negative then -n else n)
    pure (document, rest)

/-- An integer to a base that is a power of two. -/
def readRadix? (base : Nat) (cs : List Char) : Option (Document × List Char) := do
  let (digits, rest) ← readDigits? base cs
  let document ← integer? (numberOf base digits)
  pure (document, rest)

def skipNumberWord? (cs : List Char) : Option (List Char) :=
  let (_, rest) := readSign cs
  (skipWord? "inf" rest).or (skipWord? "nan" rest)

def readNumber? (cs : List Char) : Option (Document × List Char) :=
  if startsDate cs then ((skipDate? cs).bind skipTimeAfterDate?).map (.moment, ·)
  else if startsTime cs then (skipTime? cs).map (.moment, ·)
  else
    match skipNumberWord? cs with
    | some rest => some (.float, rest)
    | none =>
      match cs with
      | '0' :: 'x' :: rest => readRadix? 16 rest
      | '0' :: 'o' :: rest => readRadix? 8 rest
      | '0' :: 'b' :: rest => readRadix? 2 rest
      | _ => readDecimal? cs

end AgentLaunch.Toml
