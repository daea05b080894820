import AgentLaunch.Document

/-!
# Reading records from documents

A record is written as a table of its fields.  Keys that name no field are ignored; a field that
is written twice is an error, and so is a key that is no text.  A record may also be written as the
list of its fields in order, where a missing tail counts as fields that are not given.

The two text formats differ in two details, which a `Dialect` holds: whether such a list may go on
after the last field, and what may stand beside the name of a variant.
-/

namespace AgentLaunch

/-- In what the readings of two text formats differ. -/
structure Dialect where
  /-- A list may hold more items than the record has fields. -/
  surplusItems : Bool
  /-- What may stand beside the name of a variant when it is written as a table with one key. -/
  emptyPayload : Document → Bool

namespace Dialect

/-- A variant is a text, or a table that maps its name to `null`. -/
def json : Dialect where
  surplusItems := false
  emptyPayload
    | .null => true
    | _ => false

/-- A variant is a text, or a table that maps its name to something empty. -/
def toml : Dialect where
  surplusItems := true
  emptyPayload
    | .table [] => true
    | .list [] => true
    | _ => false

end Dialect

/-! ## Fields -/

abbrev Fields := List (String × Document)

namespace Document

def valuesAt (key : String) (entries : List (Option String × Document)) : List Document :=
  entries.filterMap fun (k, value) => if k = some key then some value else none

/-- The given fields among those of a table, in the order of the names; none if one is given twice
or a key is no text. -/
def tableFields? (names : List String) (entries : List (Option String × Document)) :
    Option Fields :=
  if entries.all (fun (key, _) => key.isSome) then
    (names.mapM fun name =>
      match valuesAt name entries with
      | [] => some none
      | [value] => some (some (name, value))
      | _ => none).map fun (found : List (Option (String × Document))) => found.filterMap id
  else none

/-- The given fields of a record with these field names. -/
def fields? (dialect : Dialect) (names : List String) : Document → Option Fields
  | .table entries => tableFields? names entries
  | .list items =>
    if items.length ≤ names.length ∨ dialect.surplusItems then some (names.zip items) else none
  | .moment => some []
  | _ => none

/-! ## Plain values -/

def text? : Document → Option String
  | .text s => s
  | _ => none

def bool? : Document → Option Bool
  | .bool b => some b
  | _ => none

def natBelow? (bound : Nat) : Document → Option Nat
  | .int n => if 0 ≤ n ∧ n < bound then some n.toNat else none
  | _ => none

def nat64? : Document → Option Nat :=
  natBelow? (Nat.pow 2 64)

def nat16? : Document → Option Nat :=
  natBelow? (Nat.pow 2 16)

def listOf? {α : Type} (item? : Document → Option α) : Document → Option (List α)
  | .list items => items.mapM item?
  | _ => none

/-- Null as nothing, everything else as a thing. -/
def nullable? {α : Type} (item? : Document → Option α) : Document → Option (Option α)
  | .null => some none
  | document => (item? document).map some

def variant? {α : Type} (dialect : Dialect) (ofName? : String → Option α) : Document → Option α
  | .text s => s.bind ofName?
  | .table [(key, payload)] => if dialect.emptyPayload payload then key.bind ofName? else none
  | _ => none

end Document

namespace Fields

def required? {α : Type} (fields : Fields) (name : String) (item? : Document → Option α) :
    Option α :=
  (fields.lookup name).bind item?

def orElse? {α : Type} (fields : Fields) (name : String) (default : α)
    (item? : Document → Option α) : Option α :=
  match fields.lookup name with
  | none => some default
  | some document => item? document

/-- A field that may be left out or null. -/
def optional? {α : Type} (fields : Fields) (name : String) (item? : Document → Option α) :
    Option (Option α) :=
  fields.orElse? name none (Document.nullable? item?)

end Fields

end AgentLaunch
