import AgentLaunch.Text.Blank

/-!
# Arguments on a Windows command line

A Windows process receives one command line and splits it into arguments itself.  `quote` writes
an argument so that the splitting gives it back: an argument that needs it is put between double
quotes, a double quote inside gets a backslash in front, and a run of backslashes is doubled
exactly where a double quote follows it, the closing one included.

`split` is the other side: the rules by which a program takes its command line apart.  Blanks
outside quotes separate arguments; `2k` backslashes before a double quote stand for `k`
backslashes and the quote opens or closes; `2k + 1` stand for `k` and a literal quote; all other
backslashes stand for themselves.
-/

namespace AgentLaunch.Windows

/-! ## Quoting -/

/-- Characters that make quotes necessary: blanks that would split the argument, and the double
quote itself. -/
def forcesQuotes (c : Char) : Bool :=
  c == ' ' || c == '\t' || c == '\n' || c == '\x0b' || c == '"'

/-- The inside of a quoted argument and its closing quote, after `pending` backslashes that are
not written yet. -/
def quoteFrom (pending : Nat) : List Char → List Char
  | [] => List.replicate (pending * 2) '\\' ++ ['"']
  | c :: cs =>
    if c = '\\' then quoteFrom (pending + 1) cs
    else if c = '"' then List.replicate (pending * 2 + 1) '\\' ++ '"' :: quoteFrom 0 cs
    else List.replicate pending '\\' ++ c :: quoteFrom 0 cs

/-- The written form of an argument.  An empty one is put between quotes too, since it would not be
seen otherwise. -/
def quoteChars (arg : List Char) : List Char :=
  if arg.isEmpty || arg.any forcesQuotes then '"' :: quoteFrom 0 arg else arg

def quote (arg : String) : String :=
  String.ofList (quoteChars arg.toList)

/-! ## Splitting -/

/-- Where a reader of a command line stands. -/
structure SplitState where
  /-- Inside a pair of quotes. -/
  quoted : Bool := false
  /-- The characters of the argument being read, last one first; none between arguments. -/
  current : Option (List Char) := none
  /-- Backslashes read that wait for what follows them. -/
  backslashes : Nat := 0
  deriving DecidableEq, Repr

namespace SplitState

/-- The current argument with some more characters. -/
def extend (s : SplitState) (cs : List Char) : Option (List Char) :=
  some (cs ++ s.current.getD [])

/-- Reads the rest of a command line and gives its arguments, and whether the quotes are closed at
the end. -/
def read (s : SplitState) : List Char → List (List Char) × Bool
  | [] =>
    let pending := List.replicate s.backslashes '\\'
    let last := if s.backslashes = 0 then s.current else s.extend pending
    ((last.map List.reverse).toList, !s.quoted)
  | c :: cs =>
    if c = '\\' then read { s with backslashes := s.backslashes + 1 } cs
    else if c = '"' then
      let kept := s.extend (List.replicate (s.backslashes / 2) '\\')
      if s.backslashes % 2 = 0 then
        read { quoted := !s.quoted, current := kept, backslashes := 0 } cs
      else
        read { quoted := s.quoted, current := some ('"' :: kept.getD []), backslashes := 0 } cs
    else if (c = ' ' ∨ c = '\t') ∧ s.quoted = false then
      let pending := List.replicate s.backslashes '\\'
      let last := if s.backslashes = 0 then s.current else s.extend pending
      let (rest, closed) := read {} cs
      ((last.map List.reverse).toList ++ rest, closed)
    else
      read { s with
        current := s.extend (c :: List.replicate s.backslashes '\\'), backslashes := 0 } cs

end SplitState

def split (line : List Char) : List (List Char) :=
  (SplitState.read {} line).1

/-- Whether all quotes of a command line are closed at its end. -/
def splitsClosed (line : List Char) : Bool :=
  (SplitState.read {} line).2

end AgentLaunch.Windows
