/-!
# Blank characters and trimming

Wherever a setting, an address or a program's answer may be padded, the padding is the Unicode
`White_Space` property, which is wider than the ASCII blanks: it takes in U+0085, the no-break
space and the ideographic space, and leaves out the zero-width characters U+200B, U+FEFF and the
Mongolian vowel separator.

* `isBlank` — the property itself, as a table of ranges.
* `trim` — a text without the blanks at its two ends.
* `trimmed?` — what is left of a text, unless nothing is.  A setting that holds only blanks counts
  as not given, and this is the one place that says so.
-/

namespace AgentLaunch.Text

/-! ## The property -/

/-- The Unicode `White_Space` property. -/
def isBlank (c : Char) : Bool :=
  let n := c.toNat
  (9 ≤ n && n ≤ 13) || n == 0x20 || n == 0x85 || n == 0xA0 || n == 0x1680 ||
    (0x2000 ≤ n && n ≤ 0x200A) || n == 0x2028 || n == 0x2029 || n == 0x202F ||
    n == 0x205F || n == 0x3000

example : ['\u0085', '\u00A0', '\u1680', '\u2007', '\u2028', '\u3000'].all isBlank := by decide

example : ['\u200B', '\uFEFF', '\u180E', 'a', '\u001C'].any isBlank = false := by decide

/-! ## Trimming -/

def trimFront (cs : List Char) : List Char :=
  cs.dropWhile isBlank

def trimBack (cs : List Char) : List Char :=
  (cs.reverse.dropWhile isBlank).reverse

/-- A text without the blanks at its two ends. -/
def trim (s : String) : String :=
  String.ofList (trimBack (trimFront s.toList))

/-- What trimming leaves of a text, if that is anything. -/
def trimmed? (s : String) : Option String :=
  let t := trim s
  if t.isEmpty then none else some t

def isBlankText (s : String) : Bool :=
  (trimmed? s).isNone

end AgentLaunch.Text
