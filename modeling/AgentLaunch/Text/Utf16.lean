/-!
# UTF-16

The encoded command of a PowerShell invocation carries its script as UTF-16 code units, low byte
first.  `units` writes a text as code units, with a surrogate pair for every character beyond the
Basic Multilingual Plane; `ofUnits?` combines the pairs again and refuses a surrogate that stands
alone.
-/

namespace AgentLaunch.Utf16

/-! ## Code units -/

/-- The code units of one character: itself, or a surrogate pair. -/
def unitsOfChar (c : Char) : List UInt16 :=
  let n := c.toNat
  if n < 0x10000 then [n.toUInt16]
  else [(0xD800 + (n - 0x10000) / 0x400).toUInt16, (0xDC00 + (n - 0x10000) % 0x400).toUInt16]

def units (cs : List Char) : List UInt16 :=
  cs.flatMap unitsOfChar

def isHigh (u : UInt16) : Bool :=
  0xD800 ≤ u && u < 0xDC00

def isLow (u : UInt16) : Bool :=
  0xDC00 ≤ u && u < 0xE000

def combine (high low : UInt16) : Char :=
  Char.ofNat (0x10000 + (high.toNat - 0xD800) * 0x400 + (low.toNat - 0xDC00))

/-- The text that code units stand for, unless a surrogate stands alone. -/
def ofUnits? : List UInt16 → Option (List Char)
  | [] => some []
  | u :: us =>
    if isHigh u then
      match us with
      | [] => none
      | v :: vs => if isLow v then (ofUnits? vs).map (combine u v :: ·) else none
    else if isLow u then none
    else (ofUnits? us).map (Char.ofNat u.toNat :: ·)

/-! ## Bytes -/

/-- The bytes of code units, low byte first. -/
def toBytes (us : List UInt16) : List UInt8 :=
  us.flatMap fun (u : UInt16) => [u.toUInt8, (u >>> 8).toUInt8]

/-- The code units that bytes stand for, low byte first, if there is an even number of them. -/
def ofBytes? : List UInt8 → Option (List UInt16)
  | [] => some []
  | [_] => none
  | low :: high :: bs => (ofBytes? bs).map ((low.toUInt16 + 256 * high.toUInt16) :: ·)

end AgentLaunch.Utf16
