import AgentLaunch.Text.Base64
import AgentLaunch.Text.Utf16

/-!
# PowerShell scripts and literals

A script travels inside a `cmd.exe` command line as one encoded word: its UTF-16 bytes in Base64,
so that nothing in it means anything to the shell that passes it on.

Inside a script, a text is written as a single-quoted literal, with every apostrophe U+0027
doubled.  `readLiteral?` says what PowerShell makes of such a literal: it takes four more
characters for a single quote than the writer does.
-/

namespace AgentLaunch.PowerShell

/-! ## Encoded commands -/

/-- A script as the argument of `-EncodedCommand`. -/
def encodeCommand (script : String) : String :=
  String.ofList (Base64.encode (Utf16.toBytes (Utf16.units script.toList)))

/-- The script that an encoded command stands for. -/
def decodeCommand? (encoded : String) : Option String := do
  let bytes ← Base64.decode? encoded.toList
  let units ← Utf16.ofBytes? bytes
  let chars ← Utf16.ofUnits? units
  pure (String.ofList chars)

/-- The command that runs a script without profile and without prompts. -/
def invocation (script : String) : String :=
  "powershell -NoProfile -NonInteractive -EncodedCommand " ++ encodeCommand script

/-! ## Single-quoted literals -/

/-- The inside of a literal: apostrophes are doubled. -/
def doubleApostrophes : List Char → List Char
  | [] => []
  | c :: cs => if c = '\'' then '\'' :: '\'' :: doubleApostrophes cs else c :: doubleApostrophes cs

/-- A text as a single-quoted literal. -/
def literal (text : String) : String :=
  String.ofList ('\'' :: doubleApostrophes text.toList ++ ['\''])

/-- The characters that PowerShell reads as a single quote: the apostrophe and the typographic
quotes U+2018 to U+201B. -/
def isSingleQuote (c : Char) : Bool :=
  c == '\'' || c == '\u2018' || c == '\u2019' || c == '\u201A' || c == '\u201B'

/-- The rest of a literal whose opening quote is read: its value, and what comes after it.  Of two
adjacent single quotes the second one is part of the value. -/
def readInside? : List Char → Option (List Char × List Char)
  | [] => none
  | [c] => if isSingleQuote c then some ([], []) else none
  | c :: d :: cs =>
    if isSingleQuote c then
      if isSingleQuote d then (readInside? cs).map fun (value, rest) => (d :: value, rest)
      else some ([], d :: cs)
    else (readInside? (d :: cs)).map fun (value, rest) => (c :: value, rest)

/-- The value of the literal at the start of a text, and what comes after it. -/
def readLiteral? : List Char → Option (List Char × List Char)
  | [] => none
  | c :: cs => if isSingleQuote c then readInside? cs else none

end AgentLaunch.PowerShell
