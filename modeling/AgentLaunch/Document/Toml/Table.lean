import AgentLaunch.Document

/-!
# Tables of TOML

A TOML text builds one tree of tables from headers and dotted keys, and forbids saying the same
thing twice: a table has one header, a key one value, and what dotted keys have built cannot be
given a header afterwards.  The tree under construction therefore remembers how each table came
about.

* `explicit` — by its own header.
* `implied` — as a parent of a header, so that it may still get a header of its own.
* `dotted` — by dotted keys, so that more dotted keys may add to it, but no header.
-/

namespace AgentLaunch.Toml

/-- How a table came about. -/
inductive Origin where
  | explicit
  | implied
  | dotted
  deriving DecidableEq, Repr

inductive Node where
  /-- A value; an inline table is one, because nothing can be added to it. -/
  | value (d : Document)
  | table (origin : Origin) (entries : List (String × Node))
  /-- Tables under one header in double brackets, in order. -/
  | tables (items : List (List (String × Node)))

abbrev Entries := List (String × Node)

namespace Entries

def set (key : String) (node : Node) : Entries → Entries
  | [] => [(key, node)]
  | (k, old) :: rest => if k = key then (k, node) :: rest else (k, old) :: set key node rest

def erase (key : String) (entries : Entries) : Entries :=
  entries.filter fun entry => entry.1 != key

/-! ## Dotted keys -/

/-- Adds a value under a dotted key.  On the way lie tables that have no header of their own, or
the last of several in double brackets; the table that gets the value must have been built by dotted
keys. -/
def insert? (entries : Entries) (value : Document) : List String → Option Entries
  | [] => none
  | [key] =>
    match entries.lookup key with
    | none => some (entries ++ [(key, .value value)])
    | some _ => none
  | key :: next :: path =>
    match entries.lookup key with
    | none =>
      (insert? [] value (next :: path)).map fun inner =>
        entries ++ [(key, .table .dotted inner)]
    | some (.table origin inner) =>
      if origin = .dotted ∨ (origin = .implied ∧ path ≠ []) then
        (insert? inner value (next :: path)).map fun inner => entries.set key (.table origin inner)
      else none
    | some (.tables items) =>
      match items.getLast? with
      | some inner =>
        if path = [] then none
        else
          (insert? inner value (next :: path)).map fun inner =>
            entries.set key (.tables (items.dropLast ++ [inner]))
      | none => none
    | some (.value _) => none

/-! ## Headers -/

/-- Changes the table under a path and gives what the change gives.  Tables that are missing on the
way are implied; of tables in double brackets the last one counts. -/
def within? {α : Type} (change : Entries → Option (Entries × α)) :
    List String → Entries → Option (Entries × α)
  | [], entries => change entries
  | key :: path, entries =>
    match entries.lookup key with
    | none =>
      (within? change path []).map fun (inner, a) => (entries ++ [(key, .table .implied inner)], a)
    | some (.table origin inner) =>
      (within? change path inner).map fun (inner, a) => (entries.set key (.table origin inner), a)
    | some (.tables items) =>
      match items.getLast? with
      | none => none
      | some inner =>
        (within? change path inner).map fun (inner, a) =>
          (entries.set key (.tables (items.dropLast ++ [inner])), a)
    | some (.value _) => none

/-- Takes out what an implied table holds already, so that it can go on under its own header. -/
def takeImplied? (key : String) (entries : Entries) : Option (Entries × Entries) :=
  match entries.lookup key with
  | none => some (entries, [])
  | some (.table .implied inner) => some (entries.erase key, inner)
  | some _ => none

/-- Makes sure that a key stands for tables in double brackets. -/
def ensureTables? (key : String) (entries : Entries) : Option (Entries × Unit) :=
  match entries.lookup key with
  | none => some (entries ++ [(key, .tables [])], ())
  | some (.tables _) => some (entries, ())
  | some _ => none

def putTable? (key : String) (table : Entries) (entries : Entries) : Option (Entries × Unit) :=
  match entries.lookup key with
  | none => some (entries ++ [(key, .table .explicit table)], ())
  | some _ => none

/-- Adds a finished table to those in double brackets under a key. -/
def addTable? (key : String) (table : Entries) (entries : Entries) : Option (Entries × Unit) :=
  match entries.lookup key with
  | none => some (entries ++ [(key, .tables [table])], ())
  | some (.tables items) => some (entries.set key (.tables (items ++ [table])), ())
  | some _ => none

end Entries

/-! ## The finished tree -/

mutual

def Node.document : Node → Document
  | .value d => d
  | .table _ entries => .table (entriesDocument entries)
  | .tables items => .list (tablesDocument items)

def entriesDocument : List (String × Node) → List (Option String × Document)
  | [] => []
  | (key, node) :: rest => (some key, node.document) :: entriesDocument rest

def tablesDocument : List (List (String × Node)) → List Document
  | [] => []
  | entries :: rest => .table (entriesDocument entries) :: tablesDocument rest

end

end AgentLaunch.Toml
