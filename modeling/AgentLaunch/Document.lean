/-!
# Documents

A configuration file is TOML text, a cloud answer is JSON text; both denote a *document*, a tree of
tables, lists and plain values.  Everything that reads settings or answers reads documents, so the
rules about missing fields, unknown keys and wrong types are stated once, in
`AgentLaunch.Document.Fields`, and the two text formats only have to say which document a text
denotes.

Two constructors carry less than the text does, because no reader of this library ever asks for
more: a number that is not an integer is only known to be one, and so is a date or a time.
-/

namespace AgentLaunch

/-- What a JSON or TOML text denotes. -/
inductive Document where
  | null
  | bool (b : Bool)
  /-- An integer in the range of its format. -/
  | int (n : Int)
  /-- A number that is no integer of its format. -/
  | float
  /-- A string; none if it is written correctly and still stands for no text. -/
  | text (s : Option String)
  /-- A date, a time, or both. -/
  | moment
  | list (items : List Document)
  /-- Keys and values in the order in which they are written, which may repeat a key. -/
  | table (entries : List (Option String × Document))
  deriving Inhabited, Repr

namespace Document

def ofText (s : String) : Document :=
  .text (some s)

def ofNat (n : Nat) : Document :=
  .int n

/-- Whether an integer has 64 bits, its sign among them. -/
def isSigned64 (n : Int) : Bool :=
  -9223372036854775808 ≤ n && n < 9223372036854775808

def ofEntries (entries : List (String × Document)) : Document :=
  .table (entries.map fun (key, value) => (some key, value))

end Document

end AgentLaunch
