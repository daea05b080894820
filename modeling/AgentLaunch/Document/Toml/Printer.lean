import AgentLaunch.Document

/-!
# Writing TOML

Documents that consist of sections of plain values are written one section after another, with a
blank line between them.  A string is written in the style in which it is easiest to read:

* a text with a line feed takes several lines, everything else one;
* a text with a double quote or a backslash is written literally, between apostrophes, if it can
  be: it holds no control characters but tabs and line feeds, no three apostrophes in a row, and
  does not end with one;
* everything else is written between double quotes, with escapes.

An integer above 2^63 - 1 has no TOML form.
-/

namespace AgentLaunch.Toml

/-! ## Styles of strings -/

def longestRun (current : Nat) : List Char → Nat
  | [] => current
  | c :: cs => if c = '\'' then longestRun (current + 1) cs else max current (longestRun 0 cs)

/-- Control characters that have no place in a literal string. -/
def needsEscape (c : Char) : Bool :=
  (c.toNat ≤ 0x1F && c != '\t' && c != '\n') || c.toNat == 0x7F

def prefersLiteral (cs : List Char) : Bool :=
  cs.any (fun c => c == '"' || c == '\\') && !cs.any needsEscape && longestRun 0 cs < 3
    && cs.getLast? != some '\''

def hex4 (n : Nat) : List Char :=
  let digits := (Nat.toDigits 16 n).map Char.toUpper
  List.replicate (4 - digits.length) '0' ++ digits

/-- A character between double quotes; `multiline` tells whether line feeds stand for themselves. -/
def escaped (multiline : Bool) (c : Char) : List Char :=
  if c = '\x08' then ['\\', 'b']
  else if c = '\t' then ['\\', 't']
  else if c = '\n' then (if multiline then ['\n'] else ['\\', 'n'])
  else if c = '\x0c' then ['\\', 'f']
  else if c = '\r' then ['\\', 'r']
  else if c = '"' then ['\\', '"']
  else if c = '\\' then ['\\', '\\']
  else if c.toNat ≤ 0x1F ∨ c.toNat = 0x7F then '\\' :: 'u' :: hex4 c.toNat
  else [c]

def stringChars (cs : List Char) : List Char :=
  let multiline := cs.contains '\n'
  if prefersLiteral cs then
    if multiline then "'''\n".toList ++ cs ++ "'''".toList
    else if cs.contains '\'' then "'''".toList ++ cs ++ "'''".toList
    else '\'' :: cs ++ ['\'']
  else
    let inside := cs.flatMap (escaped multiline)
    if multiline then "\"\"\"\n".toList ++ inside ++ "\"\"\"".toList
    else '"' :: inside ++ ['"']

/-! ## Sections -/

def valueText? : Document → Option String
  | .text (some s) => some (String.ofList (stringChars s.toList))
  | .bool b => some (if b then "true" else "false")
  | .int n => if Document.isSigned64 n then some (toString n) else none
  | _ => none

def entryText? (entry : String × Document) : Option String :=
  (valueText? entry.2).map fun text => entry.1 ++ " = " ++ text ++ "\n"

/-- A table by its name, with plain values. -/
abbrev Section := String × List (String × Document)

def sectionText? (s : Section) : Option String := do
  let entries ← s.2.mapM entryText?
  pure ("[" ++ s.1 ++ "]\n" ++ String.join entries)

/-- The text of some sections, if all their values have a TOML form. -/
def print? (sections : List Section) : Option String := do
  let texts ← sections.mapM sectionText?
  pure ("\n".intercalate texts)

end AgentLaunch.Toml
