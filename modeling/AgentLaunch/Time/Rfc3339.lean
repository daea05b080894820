import AgentLaunch.Text.Blank
import AgentLaunch.Time.Timestamp

/-!
# Reading RFC 3339 times

There are two readers.  `Timestamp.ofRfc3339?` takes what RFC 3339 allows: fixed widths, `T`, `t`
or a space between date and time, and an offset with a colon.  `Timestamp.ofRelaxed?` takes what
cloud services are known to write as well: blanks around the parts, numbers without padding, signed
years of any width, an offset without colon, and the name `UTC`.

Both allow any number of digits in a fraction, of which nine count, a leap second, and the minus
sign U+2212 in an offset.
-/

namespace AgentLaunch.Time

/-! ## Parts -/

def digitValue? (c : Char) : Option Nat :=
  if '0' ≤ c ∧ c ≤ '9' then some (c.toNat - '0'.toNat) else none

def isDigit (c : Char) : Bool :=
  (digitValue? c).isSome

def numberOf (digits : List Char) : Nat :=
  digits.foldl (fun n c => n * 10 + (c.toNat - '0'.toNat)) 0

/-- A number of at least `least` digits and, if given, at most `most`. -/
def readNumber? (least : Nat) (most : Option Nat) (cs : List Char) : Option (Nat × List Char) :=
  let run := cs.takeWhile isDigit
  let digits := match most with
    | some n => run.take n
    | none => run
  if digits.length < least then none else some (numberOf digits, cs.drop digits.length)

def readWithin? (least most low high : Nat) (cs : List Char) : Option (Nat × List Char) := do
  let (n, rest) ← readNumber? least (some most) cs
  if low ≤ n ∧ n ≤ high then pure (n, rest) else none

def skipChar? (c : Char) : List Char → Option (List Char)
  | d :: rest => if d = c then some rest else none
  | [] => none

/-- What comes after the character between date and time. -/
def skipSeparator? : List Char → Option (List Char)
  | c :: rest => if c = 'T' ∨ c = 't' ∨ c = ' ' then some rest else none
  | [] => none

/-- Nanoseconds of a fraction's digits, of which the first nine count. -/
def nanosOf (digits : List Char) : Nat :=
  let kept := digits.take 9
  numberOf kept * Nat.pow 10 (9 - kept.length)

def readFraction? : List Char → Option (Nat × List Char)
  | '.' :: rest =>
    let digits := rest.takeWhile isDigit
    if digits.isEmpty then none else some (nanosOf digits, rest.dropWhile isDigit)
  | cs => some (0, cs)

/-- The sign of an offset: whether it is negative. -/
def readSign? : List Char → Option (Bool × List Char)
  | '+' :: rest => some (false, rest)
  | '-' :: rest => some (true, rest)
  | '\u2212' :: rest => some (true, rest)
  | _ => none

/-- The seconds of an offset of hours and minutes. -/
def offsetOf (negative : Bool) (hours minutes : Nat) : Int :=
  let seconds : Int := (hours * 3600 + minutes * 60 : Nat)
  if negative then -seconds else seconds

/-- An offset from UTC; `skip` passes over what may stand between its hours and minutes. -/
def readOffset? (skip : List Char → Option (List Char)) : List Char → Option (Int × List Char)
  | 'Z' :: rest => some (0, rest)
  | 'z' :: rest => some (0, rest)
  | cs => do
    let (negative, rest) ← readSign? cs
    let (hours, rest) ← readWithin? 2 2 0 23 rest
    let rest ← skip rest
    let (minutes, rest) ← readWithin? 2 2 0 59 rest
    pure (offsetOf negative hours minutes, rest)

/-- The point in time of its parts, where second 60 is the leap second after second 59. -/
def assemble? (year : Int) (month day hour minute second nano : Nat) (offset : Int) :
    Option Timestamp :=
  let date : Date := ⟨year, month, day⟩
  let leap := second == 60
  let secondOfDay := hour * 3600 + minute * 60 + (if leap then 59 else second)
  if date.isValid then
    Timestamp.ofLocal? date secondOfDay (if leap then nano + 1000000000 else nano) offset
  else none

/-! ## RFC 3339 proper -/

/-- The point in time of the characters of an RFC 3339 text. -/
def readStrict? (cs : List Char) : Option Timestamp := do
  let (year, rest) ← readNumber? 4 (some 4) cs
  let rest ← skipChar? '-' rest
  let (month, rest) ← readWithin? 2 2 1 12 rest
  let rest ← skipChar? '-' rest
  let (day, rest) ← readWithin? 2 2 1 31 rest
  let rest ← skipSeparator? rest
  let (hour, rest) ← readWithin? 2 2 0 23 rest
  let rest ← skipChar? ':' rest
  let (minute, rest) ← readWithin? 2 2 0 59 rest
  let rest ← skipChar? ':' rest
  let (second, rest) ← readWithin? 2 2 0 60 rest
  let (nano, rest) ← readFraction? rest
  let (offset, rest) ← readOffset? (skipChar? ':') rest
  if rest.isEmpty then assemble? year month day hour minute second nano offset else none

/-! ## The relaxed form -/

/-- A year: up to four digits, or a sign and any number of them. -/
def readYear? (cs : List Char) : Option (Int × List Char) :=
  match Text.trimFront cs with
  | '-' :: rest => (readNumber? 1 none rest).map fun (n, rest) => (-(n : Int), rest)
  | '+' :: rest => (readNumber? 1 none rest).map fun (n, rest) => ((n : Int), rest)
  | cs => (readNumber? 1 (some 4) cs).map fun (n, rest) => ((n : Int), rest)

/-- A number of one or two digits within bounds, with blanks allowed in front. -/
def readField? (low high : Nat) (cs : List Char) : Option (Nat × List Char) :=
  readWithin? 1 2 low high (Text.trimFront cs)

/-- What comes after a mark that may have blanks in front. -/
def skipMark? (c : Char) (cs : List Char) : Option (List Char) :=
  skipChar? c (Text.trimFront cs)

/-- What comes after any number of colons and blanks. -/
def skipColons (cs : List Char) : Option (List Char) :=
  some (cs.dropWhile fun c => c == ':' || Text.isBlank c)

/-- What comes after the name `UTC`, in letters of either case. -/
def skipUtc? : List Char → Option (List Char)
  | u :: t :: c :: rest =>
    if u.toUpper = 'U' ∧ t.toUpper = 'T' ∧ c.toUpper = 'C' then some rest else none
  | _ => none

def readRelaxedOffset? (cs : List Char) : Option (Int × List Char) :=
  match skipUtc? cs with
  | some rest => some (0, rest)
  | none => readOffset? skipColons cs

/-- The point in time of the characters of a relaxed RFC 3339 text. -/
def readRelaxed? (cs : List Char) : Option Timestamp := do
  let (year, rest) ← readYear? cs
  let rest ← skipMark? '-' rest
  let (month, rest) ← readField? 1 12 rest
  let rest ← skipMark? '-' rest
  let (day, rest) ← readField? 1 31 rest
  let rest ← skipSeparator? rest
  let (hour, rest) ← readField? 0 23 rest
  let rest ← skipMark? ':' rest
  let (minute, rest) ← readField? 0 59 rest
  let rest ← skipMark? ':' rest
  let (second, rest) ← readField? 0 60 rest
  let (nano, rest) ← readFraction? rest
  let (offset, rest) ← readRelaxedOffset? (Text.trimFront rest)
  if (Text.trimFront rest).isEmpty then
    assemble? year month day hour minute second nano offset
  else none

end AgentLaunch.Time

namespace AgentLaunch.Timestamp

def ofRfc3339? (s : String) : Option Timestamp :=
  Time.readStrict? s.toList

def ofRelaxed? (s : String) : Option Timestamp :=
  Time.readRelaxed? s.toList

end AgentLaunch.Timestamp
