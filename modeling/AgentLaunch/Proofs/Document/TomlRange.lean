import AgentLaunch.Document.Toml
import Mathlib.Tactic.Common

/-!
# Integers of TOML are in range

TOML has integers of 64 bits only, so whatever document a text denotes, all integers in it are in
that range, however deep they lie.  The reader sees to it where it reads a number; everything else
only puts documents together.

* `Document.Ranged` — all integers are in range.
* `readValue?_ranged` — so they are in every value.
* `Filled`, `insert?_filled`, `within?_filled` — and stay so in a tree under construction.
* **`read?_ranged`** — and in the document of a text.

The reader builds a tree and turns it into a document at the end, so the property is carried along
in two forms, of documents and of the nodes of the tree.  Changes of the tree keep it because they
put in what is in range and move the rest about; `within?_filled` is the one lemma for a change
somewhere below, by induction on the path.  Values nest, and the reader has a bound for that, on
which `readValue?_ranged` is an induction.

Saving needs this: a number that was read from a file can be written into one.
-/

namespace AgentLaunch

/-- All integers in a document have 64 bits. -/
inductive Document.Ranged : Document → Prop where
  | null : Ranged .null
  | bool (b : Bool) : Ranged (.bool b)
  | int {n : Int} (hn : isSigned64 n = true) : Ranged (.int n)
  | float : Ranged .float
  | text (s : Option String) : Ranged (.text s)
  | moment : Ranged .moment
  | list {items : List Document} (h : ∀ d ∈ items, Ranged d) : Ranged (.list items)
  | table {entries : List (Option String × Document)} (h : ∀ entry ∈ entries, Ranged entry.2) :
      Ranged (.table entries)

namespace Toml

open Document (Ranged)

/-! ## Numbers -/

section Numbers

variable {cs rest : List Char} {d : Document}

lemma integer?_ranged {n : Int} (h : integer? n = some d) : d.Ranged := by
  obtain ⟨hn, hd⟩ := Option.ite_none_right_eq_some.mp h
  exact Option.some.inj hd ▸ .int hn

lemma readRadix?_ranged {base : Nat} (h : readRadix? base cs = some (d, rest)) : d.Ranged := by
  obtain ⟨_, -, h⟩ := Option.bind_eq_some_iff.mp h
  obtain ⟨_, hinteger, h⟩ := Option.bind_eq_some_iff.mp h
  obtain ⟨rfl, -⟩ := Prod.mk.inj (Option.some.inj h)
  exact integer?_ranged hinteger

lemma readDecimal?_ranged (h : readDecimal? cs = some (d, rest)) : d.Ranged := by
  unfold readDecimal? at h
  obtain ⟨⟨whole, _⟩, -, h⟩ := Option.bind_eq_some_iff.mp h
  obtain ⟨⟨hasFraction, fraction, _⟩, -, h⟩ := Option.bind_eq_some_iff.mp h
  obtain ⟨⟨hasExponent, exponent, _⟩, -, h⟩ := Option.bind_eq_some_iff.mp h
  rcases ite_eq_iff.mp h with ⟨-, h⟩ | ⟨-, h⟩
  · obtain ⟨-, h⟩ := Option.ite_none_left_eq_some.mp h
    obtain ⟨rfl, -⟩ := Prod.mk.inj (Option.some.inj h)
    exact .float
  · obtain ⟨_, hinteger, h⟩ := Option.bind_eq_some_iff.mp h
    obtain ⟨rfl, -⟩ := Prod.mk.inj (Option.some.inj h)
    exact integer?_ranged hinteger

lemma readNumber?_ranged (h : readNumber? cs = some (d, rest)) : d.Ranged := by
  unfold readNumber? at h
  rcases ite_eq_iff.mp h with ⟨-, h⟩ | ⟨-, h⟩
  · obtain ⟨_, -, h⟩ := Option.map_eq_some_iff.mp h
    obtain ⟨rfl, -⟩ := Prod.mk.inj h
    exact .moment
  · rcases ite_eq_iff.mp h with ⟨-, h⟩ | ⟨-, h⟩
    · obtain ⟨_, -, h⟩ := Option.map_eq_some_iff.mp h
      obtain ⟨rfl, -⟩ := Prod.mk.inj h
      exact .moment
    · split at h
      · obtain ⟨rfl, -⟩ := Prod.mk.inj (Option.some.inj h)
        exact .float
      · split at h
        · exact readRadix?_ranged h
        · exact readRadix?_ranged h
        · exact readRadix?_ranged h
        · exact readDecimal?_ranged h

end Numbers

/-! ## Trees under construction -/

/-- All values in a part of the tree are in range. -/
inductive Node.Ranged : Node → Prop where
  | value {d : Document} (h : d.Ranged) : Ranged (.value d)
  | table (origin : Origin) {entries : Entries} (h : ∀ entry ∈ entries, Ranged entry.2) :
      Ranged (.table origin entries)
  | tables {items : List Entries} (h : ∀ entries ∈ items, ∀ entry ∈ entries, Ranged entry.2) :
      Ranged (.tables items)

/-- All values in the entries are in range. -/
def Filled (entries : Entries) : Prop := ∀ entry ∈ entries, entry.2.Ranged

section Trees

variable {entries inner root root' : Entries} {key : String} {node : Node} {d : Document}

lemma filled_nil : Filled [] := by simp [Filled]

lemma Filled.snoc (h : Filled entries) (hnode : node.Ranged) :
    Filled (entries ++ [(key, node)]) := by
  rintro entry hentry
  rcases List.mem_append.mp hentry with hentry | hentry
  · exact h entry hentry
  · exact List.mem_singleton.mp hentry ▸ hnode

lemma Filled.set (h : Filled entries) (hnode : node.Ranged) : Filled (entries.set key node) := by
  induction entries with
  | nil =>
      rintro entry hentry
      exact List.mem_singleton.mp hentry ▸ hnode
  | cons first entries ih =>
      obtain ⟨hfirst, hentries⟩ := List.forall_mem_cons.mp h
      rw [Entries.set]
      split_ifs
      · exact List.forall_mem_cons.mpr ⟨hnode, hentries⟩
      · exact List.forall_mem_cons.mpr ⟨hfirst, ih hentries⟩

lemma Filled.erase (h : Filled entries) : Filled (Entries.erase key entries) :=
  fun entry hentry => h entry (List.mem_filter.mp hentry).1

lemma Filled.lookup (h : Filled entries) (hlookup : entries.lookup key = some node) :
    node.Ranged := by
  induction entries with
  | nil => cases hlookup
  | cons first entries ih =>
      obtain ⟨hfirst, hentries⟩ := List.forall_mem_cons.mp h
      obtain ⟨name, other⟩ := first
      rw [List.lookup_cons] at hlookup
      split at hlookup
      · exact Option.some.inj hlookup ▸ hfirst
      · exact ih hentries hlookup

lemma Node.Ranged.filled {origin : Origin} (h : Node.Ranged (.table origin inner)) :
    Filled inner := by
  cases h with
  | table _ h => exact h

/-- Of tables in double brackets one is replaced. -/
lemma Node.Ranged.replaceLast {items : List Entries} (h : Node.Ranged (.tables items))
    (hinner : Filled inner) : Node.Ranged (.tables (items.dropLast ++ [inner])) := by
  cases h with
  | tables h =>
      refine .tables fun entries hentries => ?_
      rcases List.mem_append.mp hentries with hentries | hentries
      · exact h entries (List.dropLast_subset _ hentries)
      · exact List.mem_singleton.mp hentries ▸ hinner

lemma Node.Ranged.last {items : List Entries} (h : Node.Ranged (.tables items))
    (hlast : items.getLast? = some inner) : Filled inner := by
  cases h with
  | tables h => exact h inner (List.mem_of_getLast? hlast)

/-- A value that is added under a dotted key. -/
lemma insert?_filled {path : List String} (h : Filled entries) (hd : d.Ranged)
    (hinsert : entries.insert? d path = some root) : Filled root := by
  induction path generalizing entries root with
  | nil => cases hinsert
  | cons key path ih =>
      cases path with
      | nil =>
          rw [Entries.insert?] at hinsert
          split at hinsert
          · exact Option.some.inj hinsert ▸ h.snoc (.value hd)
          · cases hinsert
      | cons next path =>
          rw [Entries.insert?] at hinsert
          split at hinsert
          · obtain ⟨inner, hinner, rfl⟩ := Option.map_eq_some_iff.mp hinsert
            exact h.snoc (.table _ (ih filled_nil hinner))
          · rename_i origin inner hlookup
            obtain ⟨-, hinsert⟩ := Option.ite_none_right_eq_some.mp hinsert
            obtain ⟨inner', hinner, rfl⟩ := Option.map_eq_some_iff.mp hinsert
            exact h.set (.table _ (ih (h.lookup hlookup).filled hinner))
          · rename_i items hlookup
            split at hinsert
            · rename_i inner hlast
              obtain ⟨-, hinsert⟩ := Option.ite_none_left_eq_some.mp hinsert
              obtain ⟨inner', hinner, rfl⟩ := Option.map_eq_some_iff.mp hinsert
              have htables := h.lookup hlookup
              exact h.set (htables.replaceLast (ih (htables.last hlast) hinner))
            · cases hinsert
          · cases hinsert

/-- A change somewhere in the tree, if it keeps everything in range where it is made. -/
lemma within?_filled {α : Type} {P : α → Prop} {change : Entries → Option (Entries × α)}
    (hchange : ∀ {es es' a}, Filled es → change es = some (es', a) → Filled es' ∧ P a)
    {path : List String} {a : α} (h : Filled root)
    (hwithin : Entries.within? change path root = some (root', a)) : Filled root' ∧ P a := by
  induction path generalizing root root' with
  | nil => exact hchange h hwithin
  | cons key path ih =>
      rw [Entries.within?] at hwithin
      split at hwithin
      · obtain ⟨⟨inner, _⟩, hinner, heq⟩ := Option.map_eq_some_iff.mp hwithin
        obtain ⟨rfl, rfl⟩ := Prod.mk.inj heq
        obtain ⟨hfilled, ha⟩ := ih filled_nil hinner
        exact ⟨h.snoc (.table _ hfilled), ha⟩
      · rename_i origin inner hlookup
        obtain ⟨⟨inner', _⟩, hinner, heq⟩ := Option.map_eq_some_iff.mp hwithin
        obtain ⟨rfl, rfl⟩ := Prod.mk.inj heq
        obtain ⟨hfilled, ha⟩ := ih (h.lookup hlookup).filled hinner
        exact ⟨h.set (.table _ hfilled), ha⟩
      · rename_i items hlookup
        split at hwithin
        · cases hwithin
        · rename_i inner hlast
          obtain ⟨⟨inner', _⟩, hinner, heq⟩ := Option.map_eq_some_iff.mp hwithin
          obtain ⟨rfl, rfl⟩ := Prod.mk.inj heq
          have htables := h.lookup hlookup
          obtain ⟨hfilled, ha⟩ := ih (htables.last hlast) hinner
          exact ⟨h.set (htables.replaceLast hfilled), ha⟩
      · cases hwithin

lemma takeImplied?_filled {taken : Entries} (h : Filled entries)
    (htake : entries.takeImplied? key = some (root, taken)) : Filled root ∧ Filled taken := by
  rw [Entries.takeImplied?] at htake
  split at htake
  · obtain ⟨rfl, rfl⟩ := Prod.mk.inj (Option.some.inj htake)
    exact ⟨h, filled_nil⟩
  · rename_i hlookup
    obtain ⟨rfl, rfl⟩ := Prod.mk.inj (Option.some.inj htake)
    exact ⟨h.erase, (h.lookup hlookup).filled⟩
  · cases htake

lemma ensureTables?_filled {u : Unit} (h : Filled entries)
    (hensure : entries.ensureTables? key = some (root, u)) : Filled root := by
  rw [Entries.ensureTables?] at hensure
  split at hensure
  · obtain ⟨rfl, -⟩ := Prod.mk.inj (Option.some.inj hensure)
    exact h.snoc (.tables (by simp))
  · obtain ⟨rfl, -⟩ := Prod.mk.inj (Option.some.inj hensure)
    exact h
  · cases hensure

lemma putTable?_filled {u : Unit} (hinner : Filled inner) (h : Filled entries)
    (hput : Entries.putTable? key inner entries = some (root, u)) : Filled root := by
  rw [Entries.putTable?] at hput
  split at hput
  · obtain ⟨rfl, -⟩ := Prod.mk.inj (Option.some.inj hput)
    exact h.snoc (.table _ hinner)
  · cases hput

lemma addTable?_filled {u : Unit} (hinner : Filled inner) (h : Filled entries)
    (hadd : Entries.addTable? key inner entries = some (root, u)) : Filled root := by
  rw [Entries.addTable?] at hadd
  split at hadd
  · obtain ⟨rfl, -⟩ := Prod.mk.inj (Option.some.inj hadd)
    refine h.snoc (.tables fun es hes => ?_)
    exact List.mem_singleton.mp hes ▸ hinner
  · rename_i items hlookup
    obtain ⟨rfl, -⟩ := Prod.mk.inj (Option.some.inj hadd)
    refine h.set (.tables fun es hes => ?_)
    cases h.lookup hlookup with
    | tables hitems =>
        rcases List.mem_append.mp hes with hes | hes
        · exact hitems es hes
        · exact List.mem_singleton.mp hes ▸ hinner
  · cases hadd

lemma entriesDocument_eq_map (entries : Entries) :
    entriesDocument entries = entries.map fun (key, node) => (some key, node.document) := by
  induction entries with
  | nil => rfl
  | cons entry entries ih =>
      obtain ⟨key, node⟩ := entry
      rw [entriesDocument, ih]
      rfl

lemma tablesDocument_eq_map (items : List Entries) :
    tablesDocument items = items.map fun entries => .table (entriesDocument entries) := by
  induction items with
  | nil => rfl
  | cons entries items ih =>
      rw [tablesDocument, ih]
      rfl

lemma Node.Ranged.document (h : node.Ranged) : node.document.Ranged := by
  induction h with
  | value hd =>
      rw [Node.document]
      exact hd
  | @table origin entries _ ih =>
      rw [Node.document, entriesDocument_eq_map]
      refine .table fun entry hentry => ?_
      obtain ⟨⟨key, node⟩, hmem, rfl⟩ := List.mem_map.mp hentry
      exact ih _ hmem
  | @tables items _ ih =>
      rw [Node.document, tablesDocument_eq_map]
      refine .list fun d hd => ?_
      obtain ⟨entries, hentries, rfl⟩ := List.mem_map.mp hd
      rw [entriesDocument_eq_map]
      refine .table fun entry hentry => ?_
      obtain ⟨⟨key, node⟩, hmem, rfl⟩ := List.mem_map.mp hentry
      exact ih _ hentries _ hmem

lemma Filled.document (h : Filled entries) : (Document.table (entriesDocument entries)).Ranged := by
  have hnode := (Node.Ranged.table .explicit h).document
  rwa [Node.document] at hnode

end Trees

/-! ## Values -/

section Values

variable {value? : ValueReader} {cs rest : List Char} {d : Document}

/-- All values that a reader gives are in range. -/
def ReadsRanged (value? : ValueReader) : Prop :=
  ∀ {cs d rest}, value? cs = some (d, rest) → d.Ranged

lemma readItems?_ranged (hvalue : ReadsRanged value?) {n : Nat} {items : List Document}
    (h : readItems? value? n cs = some (items, rest)) : ∀ d ∈ items, d.Ranged := by
  induction n generalizing cs rest items with
  | zero => cases h
  | succ n ih =>
      rw [readItems?] at h
      split at h
      · obtain ⟨rfl, -⟩ := Prod.mk.inj (Option.some.inj h)
        simp
      · obtain ⟨⟨item, _⟩, hitem, h⟩ := Option.bind_eq_some_iff.mp h
        dsimp only at h
        split at h
        · obtain ⟨⟨more, _⟩, hmore, h⟩ := Option.bind_eq_some_iff.mp h
          obtain ⟨rfl, -⟩ := Prod.mk.inj (Option.some.inj h)
          exact List.forall_mem_cons.mpr ⟨hvalue hitem, ih hmore⟩
        · obtain ⟨rfl, -⟩ := Prod.mk.inj (Option.some.inj h)
          simpa using hvalue hitem
        · cases h

lemma readInline?_filled (hvalue : ReadsRanged value?) {n : Nat} {entries entries' : Entries}
    (hentries : Filled entries) (h : readInline? value? n entries cs = some (entries', rest)) :
    Filled entries' := by
  induction n generalizing cs entries with
  | zero => cases h
  | succ n ih =>
      rw [readInline?] at h
      obtain ⟨⟨key, _⟩, -, h⟩ := Option.bind_eq_some_iff.mp h
      obtain ⟨_, -, h⟩ := Option.bind_eq_some_iff.mp h
      obtain ⟨⟨item, _⟩, hitem, h⟩ := Option.bind_eq_some_iff.mp h
      obtain ⟨added, hadded, h⟩ := Option.bind_eq_some_iff.mp h
      have hfilled := insert?_filled hentries (hvalue hitem) hadded
      split at h
      · exact ih hfilled h
      · obtain ⟨rfl, -⟩ := Prod.mk.inj (Option.some.inj h)
        exact hfilled
      · cases h

/-- **Every value is in range**, by induction on how deep it may nest. -/
lemma readValue?_ranged (depth : Nat) : ReadsRanged (readValue? depth) := by
  have htext : ∀ {cs d rest}, ((readString? cs).map fun read => (Document.ofText read.1, read.2))
      = some (d, rest) → d.Ranged := by
    intro cs d rest h
    obtain ⟨_, -, heq⟩ := Option.map_eq_some_iff.mp h
    obtain ⟨rfl, -⟩ := Prod.mk.inj heq
    exact .text _
  have hword : ∀ {word cs b d rest}, (skipWord? word cs).map (Document.bool b, ·) = some (d, rest) →
      d.Ranged := by
    intro word cs b d rest h
    obtain ⟨_, -, heq⟩ := Option.map_eq_some_iff.mp h
    obtain ⟨rfl, -⟩ := Prod.mk.inj heq
    exact .bool _
  induction depth with
  | zero =>
      intro cs d rest h
      rw [readValue?.eq_def] at h
      dsimp only at h
      split at h
      · exact htext h
      · exact htext h
      · exact hword h
      · exact hword h
      · cases h
      · cases h
      · exact readNumber?_ranged h
  | succ depth ih =>
      intro cs d rest h
      rw [readValue?.eq_def] at h
      dsimp only at h
      split at h
      · exact htext h
      · exact htext h
      · exact hword h
      · exact hword h
      · obtain ⟨⟨items, _⟩, hitems, heq⟩ := Option.map_eq_some_iff.mp h
        obtain ⟨rfl, -⟩ := Prod.mk.inj heq
        exact .list (readItems?_ranged ih hitems)
      · split at h
        · obtain ⟨rfl, -⟩ := Prod.mk.inj (Option.some.inj h)
          exact .table (by simp)
        · obtain ⟨⟨entries, _⟩, hentries, heq⟩ := Option.map_eq_some_iff.mp h
          obtain ⟨rfl, -⟩ := Prod.mk.inj heq
          exact (readInline?_filled ih filled_nil hentries).document
      · exact readNumber?_ranged h

end Values

/-! ## Lines -/

/-- All values in a construction are in range. -/
structure Construction.Ranged (c : Construction) : Prop where
  root : Filled c.root
  current : Filled c.current

section Lines

variable {c c' : Construction} {cs rest : List Char}

lemma finish?_filled (h : c.Ranged) {root : Entries} (hfinish : c.finish? = some root) :
    Filled root := by
  rw [Construction.finish?] at hfinish
  split at hfinish
  · exact Option.some.inj hfinish ▸ h.current
  · obtain ⟨⟨root', u⟩, hwithin, rfl⟩ := Option.map_eq_some_iff.mp hfinish
    refine (within?_filled (P := fun _ => True) ?_ h.root hwithin).1
    intro es es' u hes hput
    split_ifs at hput
    · exact ⟨addTable?_filled h.current hes hput, trivial⟩
    · exact ⟨putTable?_filled h.current hes hput, trivial⟩

lemma begin?_ranged (h : c.Ranged) {repeated : Bool} {path : List String}
    (hbegin : c.begin? repeated path = some c') : c'.Ranged := by
  obtain ⟨root, hfinish, hbegin⟩ := Option.bind_eq_some_iff.mp hbegin
  obtain ⟨key, -, hbegin⟩ := Option.bind_eq_some_iff.mp hbegin
  have hroot := finish?_filled h hfinish
  split_ifs at hbegin
  · obtain ⟨⟨root', u⟩, hwithin, heq⟩ := Option.bind_eq_some_iff.mp hbegin
    obtain rfl := Option.some.inj heq
    have hfilled := within?_filled (P := fun _ => True)
      (fun hes hensure => ⟨ensureTables?_filled hes hensure, trivial⟩) hroot hwithin
    exact ⟨hfilled.1, filled_nil⟩
  · obtain ⟨⟨root', current⟩, hwithin, heq⟩ := Option.bind_eq_some_iff.mp hbegin
    obtain rfl := Option.some.inj heq
    have hfilled := within?_filled (P := Filled) takeImplied?_filled hroot hwithin
    exact ⟨hfilled.1, hfilled.2⟩

lemma readHeader?_ranged (h : c.Ranged) (hread : readHeader? c cs = some (c', rest)) :
    c'.Ranged := by
  unfold readHeader? at hread
  split at hread
  · obtain ⟨⟨path, _⟩, -, hread⟩ := Option.bind_eq_some_iff.mp hread
    obtain ⟨_, -, hread⟩ := Option.bind_eq_some_iff.mp hread
    obtain ⟨begun, hbegin, hread⟩ := Option.bind_eq_some_iff.mp hread
    obtain ⟨_, -, hread⟩ := Option.bind_eq_some_iff.mp hread
    obtain ⟨rfl, -⟩ := Prod.mk.inj (Option.some.inj hread)
    exact begin?_ranged h hbegin
  · obtain ⟨⟨path, _⟩, -, hread⟩ := Option.bind_eq_some_iff.mp hread
    obtain ⟨_, -, hread⟩ := Option.bind_eq_some_iff.mp hread
    obtain ⟨begun, hbegin, hread⟩ := Option.bind_eq_some_iff.mp hread
    obtain ⟨_, -, hread⟩ := Option.bind_eq_some_iff.mp hread
    obtain ⟨rfl, -⟩ := Prod.mk.inj (Option.some.inj hread)
    exact begin?_ranged h hbegin

lemma readEntry?_ranged (h : c.Ranged) (hread : readEntry? c cs = some (c', rest)) :
    c'.Ranged := by
  obtain ⟨⟨key, _⟩, -, hread⟩ := Option.bind_eq_some_iff.mp hread
  obtain ⟨_, -, hread⟩ := Option.bind_eq_some_iff.mp hread
  obtain ⟨⟨d, _⟩, hvalue, hread⟩ := Option.bind_eq_some_iff.mp hread
  obtain ⟨_, -, hread⟩ := Option.bind_eq_some_iff.mp hread
  obtain ⟨added, hadd, hread⟩ := Option.bind_eq_some_iff.mp hread
  obtain ⟨rfl, -⟩ := Prod.mk.inj (Option.some.inj hread)
  obtain ⟨current, hinsert, rfl⟩ := Option.map_eq_some_iff.mp hadd
  exact ⟨h.root, insert?_filled h.current (readValue?_ranged _ hvalue) hinsert⟩

lemma readLinesInto?_ranged {n : Nat} (h : c.Ranged) (hread : readLinesInto? n c cs = some c') :
    c'.Ranged := by
  induction n generalizing c cs with
  | zero => cases hread
  | succ n ih =>
      rw [readLinesInto?] at hread
      split at hread
      · exact Option.some.inj hread ▸ h
      · obtain ⟨⟨begun, _⟩, hheader, hread⟩ := Option.bind_eq_some_iff.mp hread
        exact ih (readHeader?_ranged h hheader) hread
      · obtain ⟨_, -, hread⟩ := Option.bind_eq_some_iff.mp hread
        exact ih h hread
      · split at hread
        · exact ih h hread
        · obtain ⟨⟨added, _⟩, hentry, hread⟩ := Option.bind_eq_some_iff.mp hread
          exact ih (readEntry?_ranged h hentry) hread

/-- **Integers of TOML are in range.** -/
lemma read?_ranged {text : String} {d : Document} (h : read? text = some d) : d.Ranged := by
  obtain ⟨c, hlines, h⟩ := Option.bind_eq_some_iff.mp h
  obtain ⟨entries, hfinish, h⟩ := Option.bind_eq_some_iff.mp h
  obtain rfl := Option.some.inj h
  have hempty : Construction.Ranged {} := ⟨filled_nil, filled_nil⟩
  exact (finish?_filled (readLinesInto?_ranged hempty hlines) hfinish).document

end Lines

end Toml

end AgentLaunch
