import AgentLaunch.Document.Toml.Table
import AgentLaunch.Document.Toml.Token

/-!
# TOML

Which document a TOML 1.0 text denotes.  The text is a sequence of lines: entries of the table that
is being filled, and headers that begin another one.  A finished table is put into the tree when
the next header or the end of the text is reached.

Values nest at most 79 levels deep, and a key has at most 79 parts.
-/

namespace AgentLaunch.Toml

/-- Lists, inline tables and dotted keys go no deeper than this. -/
def depthLimit : Nat := 79

/-! ## Keys -/

/-- The parts of a dotted key; the first number bounds how many there are. -/
def readKeyParts? : Nat → List Char → Option (List String × List Char)
  | 0, _ => none
  | n + 1, cs => do
    let (part, rest) ← readKeyPart? (skipBlanks cs)
    match skipBlanks rest with
    | '.' :: rest =>
      let (parts, rest) ← readKeyParts? n rest
      pure (part :: parts, rest)
    | rest => pure ([part], rest)

def readKey? (cs : List Char) : Option (List String × List Char) :=
  readKeyParts? depthLimit cs

/-! ## Values -/

/-- What comes after blanks, comments and line ends; the number bounds how many lines there are. -/
def skipLines : Nat → List Char → List Char
  | 0, cs => cs
  | n + 1, cs =>
    let cs := skipBlanks cs
    match skipNewline? (skipComment cs) with
    | some rest => skipLines n rest
    | none => cs

abbrev ValueReader := List Char → Option (Document × List Char)

/-- The items of a list up to its closing bracket.  Comments and line ends may stand anywhere
between them, and a comma after the last one. -/
def readItems? (value? : ValueReader) : Nat → List Char → Option (List Document × List Char)
  | 0, _ => none
  | n + 1, cs =>
    match skipLines (cs.length + 1) cs with
    | ']' :: rest => some ([], rest)
    | cs => do
      let (item, rest) ← value? cs
      match skipLines (rest.length + 1) rest with
      | ',' :: rest =>
        let (items, rest) ← readItems? value? n rest
        pure (item :: items, rest)
      | ']' :: rest => pure ([item], rest)
      | _ => none

/-- The entries of an inline table up to its closing brace, added to those before them. -/
def readInline? (value? : ValueReader) :
    Nat → Entries → List Char → Option (Entries × List Char)
  | 0, _, _ => none
  | n + 1, entries, cs => do
    let (key, rest) ← readKey? cs
    let rest ← skipChar? '=' rest
    let (value, rest) ← value? (skipBlanks rest)
    let entries ← entries.insert? value key
    match skipBlanks rest with
    | ',' :: rest => readInline? value? n entries rest
    | '}' :: rest => pure (entries, rest)
    | _ => none

/-- The value at the start of a text, with at most so many levels of lists and inline tables. -/
def readValue? : Nat → ValueReader
  | depth, cs =>
    match cs with
    | '"' :: _ => (readString? cs).map fun (s, rest) => (.ofText s, rest)
    | '\'' :: _ => (readString? cs).map fun (s, rest) => (.ofText s, rest)
    | 't' :: _ => (skipWord? "true" cs).map (.bool true, ·)
    | 'f' :: _ => (skipWord? "false" cs).map (.bool false, ·)
    | '[' :: rest =>
      match depth with
      | 0 => none
      | depth + 1 =>
        (readItems? (readValue? depth) (rest.length + 1) rest).map fun (items, rest) =>
          (.list items, rest)
    | '{' :: rest =>
      match depth with
      | 0 => none
      | depth + 1 =>
        match skipBlanks rest with
        | '}' :: rest => some (.table [], rest)
        | _ =>
          (readInline? (readValue? depth) (rest.length + 1) [] rest).map fun (entries, rest) =>
            (.table (entriesDocument entries), rest)
    | _ => readNumber? cs

/-! ## Lines -/

/-- The tree so far, and the table that is being filled. -/
structure Construction where
  root : Entries := []
  /-- The path of the table that is being filled; none before the first header. -/
  path : List String := []
  /-- The table was begun by a header in double brackets. -/
  repeated : Bool := false
  current : Entries := []

namespace Construction

/-- Puts the table that has been filled into the tree. -/
def finish? (c : Construction) : Option Entries :=
  match c.path.getLast? with
  | none => some c.current
  | some key =>
    let put := if c.repeated then Entries.addTable? key c.current
      else Entries.putTable? key c.current
    (Entries.within? put c.path.dropLast c.root).map Prod.fst

def begin? (c : Construction) (repeated : Bool) (path : List String) : Option Construction := do
  let root ← c.finish?
  let key ← path.getLast?
  if repeated then
    let (root, _) ← Entries.within? (Entries.ensureTables? key) path.dropLast root
    pure { root, path, repeated }
  else
    let (root, current) ← Entries.within? (Entries.takeImplied? key) path.dropLast root
    pure { root, path, repeated, current }

def add? (c : Construction) (key : List String) (value : Document) : Option Construction :=
  (c.current.insert? value key).map fun current => { c with current }

end Construction

/-- What comes after the end of a line: blanks, a comment, and a line end or the end of the text. -/
def skipLineEnd? (cs : List Char) : Option (List Char) :=
  match skipComment (skipBlanks cs) with
  | [] => some []
  | rest => skipNewline? rest

def readHeader? (c : Construction) (cs : List Char) : Option (Construction × List Char) :=
  match cs with
  | '[' :: cs => do
    let (path, rest) ← readKey? cs
    let rest ← skipWord? "]]" rest
    let c ← c.begin? true path
    let rest ← skipLineEnd? rest
    pure (c, rest)
  | _ => do
    let (path, rest) ← readKey? cs
    let rest ← skipChar? ']' rest
    let c ← c.begin? false path
    let rest ← skipLineEnd? rest
    pure (c, rest)

def readEntry? (c : Construction) (cs : List Char) : Option (Construction × List Char) := do
  let (key, rest) ← readKey? cs
  let rest ← skipChar? '=' rest
  let (value, rest) ← readValue? depthLimit (skipBlanks rest)
  let rest ← skipLineEnd? rest
  let c ← c.add? key value
  pure (c, rest)

/-- Reads the lines of a text; the number bounds how many there are. -/
def readLinesInto? : Nat → Construction → List Char → Option Construction
  | 0, _, _ => none
  | n + 1, c, cs =>
    match skipBlanks cs with
    | [] => some c
    | '[' :: rest => do
      let (c, rest) ← readHeader? c rest
      readLinesInto? n c rest
    | '#' :: rest => do
      let rest ← skipLineEnd? ('#' :: rest)
      readLinesInto? n c rest
    | cs =>
      match skipNewline? cs with
      | some rest => readLinesInto? n c rest
      | none => do
        let (c, rest) ← readEntry? c cs
        readLinesInto? n c rest

/-- What comes after a byte order mark, if there is one. -/
def skipMark : List Char → List Char
  | '\uFEFF' :: rest => rest
  | cs => cs

def read? (text : String) : Option Document := do
  let cs := skipMark text.toList
  let c ← readLinesInto? (cs.length + 1) {} cs
  let entries ← c.finish?
  pure (.table (entriesDocument entries))

end AgentLaunch.Toml
