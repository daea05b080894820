import AgentLaunch.Document.Fields
import AgentLaunch.Proofs.Traversal
import Mathlib.Data.List.Nodup
import Mathlib.Tactic.Common

/-!
# Records, slot by slot

A record is read from a table by looking up one field after another, and written as the table of
those of its fields that have something to show.  Both are told by the *slots* of the record: for
each field its name, how its value is read and written, what it is when the field is left out, and
where it is found in the record.

* `Slot`, `Slot.in?` — a field of a record, and what given fields say about it.
* `ReadBySlots` — a reader that follows the slots, and nothing else.
* `tableFields?_eq_some_iff` — the fields that are found in a table are the ones it gives.
* `ReadBySlots.of_table` — what is read from a table that gives any of the fields.
* `ReadBySlots.of_insert` — what one more field in a table changes.
* **`ReadBySlots.of_written`** — a record that has been written is read back.

A reader that goes by slots is determined by two things: which fields of a table it looks at, and
what each of them says to its slot.  The first is `tableFields?`, and is understood here once for
all records; the second is `Slot.in?`, which knows what a missing field means.  A key that is given
twice or is no text makes a table unreadable, so the lemmas about one entry more have to say that it
is new.

Writing leaves fields out that have nothing to show.  Reading back is therefore not a matter of the
same list again, but of each slot by itself: what is written for it is where it is looked up, or it
is left out and its default is what the record has.  A slot with this property is `Faithful`.
-/

namespace AgentLaunch

open Document (valuesAt tableFields?)

/-- A field of records of type `R`. -/
structure Slot (R : Type) where
  name : String
  {Value : Type}
  /-- The field of a record. -/
  get : R → Value
  read? : Document → Option Value
  /-- The value if the field is left out; none if it has to be given. -/
  default? : Option Value
  /-- What is written for the field, if anything. -/
  write? : R → Option Document

namespace Slot

variable {R : Type}

/-- What given fields say about a slot. -/
def in? (slot : Slot R) (fields : Fields) : Option slot.Value :=
  match fields.lookup slot.name with
  | none => slot.default?
  | some d => slot.read? d

/-- What the entries of a table say about a slot. -/
def among? (slot : Slot R) (entries : List (Option String × Document)) : Option slot.Value :=
  match (valuesAt slot.name entries).head? with
  | none => slot.default?
  | some d => slot.read? d

/-- The fields that are written for a record. -/
def written (slots : List (Slot R)) (r : R) : List (String × Document) :=
  slots.filterMap fun slot => (slot.write? r).map fun d => (slot.name, d)

/-- What is written for a slot says what the record has there. -/
def Faithful (slot : Slot R) (r : R) : Prop :=
  match slot.write? r with
  | none => slot.default? = some (slot.get r)
  | some d => slot.read? d = some (slot.get r)

end Slot

/-- **A reader that goes by slots**: it reads a record exactly if the record has what the given
fields say about every slot. -/
structure ReadBySlots {R : Type} (dialect : Dialect) (slots : List (Slot R))
    (ofDocument? : Document → Option R) : Prop where
  names_nodup : (slots.map Slot.name).Nodup
  /-- The slots are all there is in a record. -/
  ext (r r' : R) (_ : ∀ slot ∈ slots, slot.get r = slot.get r') : r = r'
  reads_iff (d : Document) (r : R) : ofDocument? d = some r
    ↔ ∃ fields, d.fields? dialect (slots.map Slot.name) = some fields
      ∧ ∀ slot ∈ slots, slot.in? fields = some (slot.get r)
  /-- Any values make a record. -/
  reads (d : Document) (fields : Fields) (_ : d.fields? dialect (slots.map Slot.name) = some fields)
    (_ : ∀ slot ∈ slots, (slot.in? fields).isSome) : (ofDocument? d).isSome

/-! ## The fields of a table -/

/-- A table from which fields can be read: its keys are texts, and it gives no field twice. -/
structure Document.Readable (names : List String) (entries : List (Option String × Document)) :
    Prop where
  keys : ∀ entry ∈ entries, entry.1.isSome
  once : ∀ name ∈ names, (valuesAt name entries).length ≤ 1

/-- The fields of some names that a table gives. -/
def Document.given (names : List String) (entries : List (Option String × Document)) : Fields :=
  names.filterMap fun name => (valuesAt name entries).head?.map fun d => (name, d)

section Tables

variable {names : List String} {entries : List (Option String × Document)} {fields : Fields}

lemma tableFields?_of_readable (h : Document.Readable names entries) :
    tableFields? names entries = some (Document.given names entries) := by
  have hkeys : entries.all (fun entry => entry.1.isSome) = true := List.all_eq_true.mpr h.keys
  rw [tableFields?, if_pos hkeys]
  rw [mapM_eq_some_map (g := fun name => (valuesAt name entries).head?.map fun d => (name, d))]
  · rw [Option.map_some, List.filterMap_map]
    rfl
  · intro name hname
    have honce := h.once name hname
    rcases hvalues : valuesAt name entries with _ | ⟨value, _ | ⟨other, more⟩⟩
    · rfl
    · rfl
    · simp [hvalues] at honce

/-- **The fields of a table are the ones it gives**, if it can be read at all. -/
lemma tableFields?_eq_some_iff : tableFields? names entries = some fields
    ↔ Document.Readable names entries ∧ fields = Document.given names entries := by
  constructor
  · intro h
    have hreadable : Document.Readable names entries := by
      obtain ⟨hkeys, hfound⟩ := Option.ite_none_right_eq_some.mp h
      obtain ⟨found, hfound, -⟩ := Option.map_eq_some_iff.mp hfound
      refine ⟨List.all_eq_true.mp hkeys, fun name hname => ?_⟩
      have hone := isSome_mapM_iff.mp (Option.isSome_of_eq_some hfound) name hname
      rcases hvalues : valuesAt name entries with _ | ⟨value, _ | ⟨other, more⟩⟩
      · exact Nat.zero_le _
      · exact Nat.le_refl _
      · simp [hvalues] at hone
    exact ⟨hreadable, Option.some.inj (h.symm.trans (tableFields?_of_readable hreadable))⟩
  · rintro ⟨hreadable, rfl⟩
    exact tableFields?_of_readable hreadable

lemma lookup_given {name : String} (hname : name ∈ names) :
    (Document.given names entries).lookup name = (valuesAt name entries).head? := by
  have hnone : ∀ names : List String, (valuesAt name entries).head? = none →
      (Document.given names entries).lookup name = none := by
    intro names hvalue
    refine List.lookup_eq_none_iff.mpr fun p hp => ?_
    obtain ⟨other, -, hmap⟩ := List.mem_filterMap.mp hp
    obtain ⟨d, hd, rfl⟩ := Option.map_eq_some_iff.mp hmap
    refine bne_iff_ne.mpr ?_
    rintro rfl
    cases hvalue.symm.trans hd
  induction names with
  | nil => cases hname
  | cons other names ih =>
      by_cases hsame : name = other
      · subst hsame
        cases hvalue : (valuesAt name entries).head? with
        | some d => simp [Document.given, hvalue]
        | none => exact hnone _ hvalue
      · have hrest := ih ((List.mem_cons.mp hname).resolve_left hsame)
        have hne : (name == other) = false := beq_eq_false_iff_ne.mpr hsame
        rw [← hrest, Document.given, List.filterMap_cons]
        cases (valuesAt other entries).head? with
        | none => rfl
        | some d => exact (List.lookup_cons (a := name)).trans (by rw [hne]; rfl)

end Tables

/-! ## Reading slot by slot -/

namespace Document

@[simp] lemma valuesAt_nil (key : String) : valuesAt key [] = [] := rfl

lemma valuesAt_cons (key : String) (entry : Option String × Document)
    (es : List (Option String × Document)) : valuesAt key (entry :: es)
      = if entry.1 = some key then entry.2 :: valuesAt key es else valuesAt key es := by
  obtain ⟨k, value⟩ := entry
  by_cases h : k = some key <;> simp [valuesAt, h]

lemma valuesAt_append (key : String) (es es' : List (Option String × Document)) :
    valuesAt key (es ++ es') = valuesAt key es ++ valuesAt key es' := List.filterMap_append

/-! ## One more entry -/

section Insertion

variable {names : List String} {name : String} {front back : List (Option String × Document)}
  (d : Document)

lemma valuesAt_inserted_self (hnew : valuesAt name (front ++ back) = []) :
    valuesAt name (front ++ (some name, d) :: back) = [d] := by
  rw [valuesAt_append, List.append_eq_nil_iff] at hnew
  rw [valuesAt_append, valuesAt_cons, if_pos rfl, hnew.1, hnew.2]
  rfl

lemma valuesAt_inserted_of_ne {other : String} (hne : other ≠ name) :
    valuesAt other (front ++ (some name, d) :: back) = valuesAt other (front ++ back) := by
  rw [valuesAt_append, valuesAt_append, valuesAt_cons,
    if_neg fun heq => hne (Option.some.inj heq).symm]

/-- A table with a new entry is readable if it is without this entry. -/
lemma readable_inserted_iff (hnew : valuesAt name (front ++ back) = []) :
    Readable names (front ++ (some name, d) :: back) ↔ Readable names (front ++ back) := by
  have hcount : ∀ other, (valuesAt other (front ++ (some name, d) :: back)).length ≤ 1
      ↔ (valuesAt other (front ++ back)).length ≤ 1 := by
    intro other
    by_cases hsame : other = name
    · subst hsame
      simp [valuesAt_inserted_self d hnew, hnew]
    · rw [valuesAt_inserted_of_ne d hsame]
  have hkeys : (∀ entry ∈ front ++ (some name, d) :: back, entry.1.isSome)
      ↔ ∀ entry ∈ front ++ back, entry.1.isSome := by
    simp only [List.forall_mem_append, List.forall_mem_cons, Option.isSome_some, true_and]
  exact ⟨fun h => ⟨hkeys.mp h.keys, fun other hother => (hcount other).mp (h.once other hother)⟩,
    fun h => ⟨hkeys.mpr h.keys, fun other hother => (hcount other).mpr (h.once other hother)⟩⟩

end Insertion

end Document

namespace ReadBySlots

variable {R : Type} {dialect : Dialect} {slots : List (Slot R)} {ofDocument? : Document → Option R}

lemma in?_given {slot : Slot R} (hslot : slot ∈ slots) {entries : List (Option String × Document)} :
    slot.in? (Document.given (slots.map Slot.name) entries) = slot.among? entries := by
  rw [Slot.in?, Slot.among?, lookup_given (List.mem_map_of_mem hslot)]

/-- What is read from a table. -/
lemma reads_table_iff (h : ReadBySlots dialect slots ofDocument?)
    {entries : List (Option String × Document)} {r : R} : ofDocument? (.table entries) = some r
      ↔ Document.Readable (slots.map Slot.name) entries
        ∧ ∀ slot ∈ slots, slot.among? entries = some (slot.get r) := by
  rw [h.reads_iff]
  constructor
  · rintro ⟨fields, hfields, hslots⟩
    obtain ⟨hreadable, rfl⟩ := tableFields?_eq_some_iff.mp hfields
    exact ⟨hreadable, fun slot hslot => in?_given hslot ▸ hslots slot hslot⟩
  · rintro ⟨hreadable, hslots⟩
    exact ⟨_, tableFields?_of_readable hreadable,
      fun slot hslot => in?_given hslot ▸ hslots slot hslot⟩

lemma reads_table (h : ReadBySlots dialect slots ofDocument?)
    {entries : List (Option String × Document)}
    (hreadable : Document.Readable (slots.map Slot.name) entries)
    (hslots : ∀ slot ∈ slots, (slot.among? entries).isSome) :
    ∃ r, ofDocument? (.table entries) = some r :=
  Option.isSome_iff_exists.mp <| h.reads _ _ (tableFields?_of_readable hreadable)
    fun slot hslot => in?_given hslot ▸ hslots slot hslot

/-- **A table that gives any of the fields**, each at most once and with a value that can be read,
is read as a record with these values and the defaults in all the other fields. -/
lemma of_table (h : ReadBySlots dialect slots ofDocument?)
    {entries : List (Option String × Document)}
    (hreadable : Document.Readable (slots.map Slot.name) entries)
    (hvalid : ∀ slot ∈ slots, ∀ d ∈ valuesAt slot.name entries, (slot.read? d).isSome)
    (hdefault : ∀ slot ∈ slots, valuesAt slot.name entries = [] → slot.default?.isSome) :
    ∃ r, ofDocument? (.table entries) = some r ∧ ∀ slot ∈ slots,
      (∀ d ∈ valuesAt slot.name entries, slot.read? d = some (slot.get r))
        ∧ (valuesAt slot.name entries = [] → slot.default? = some (slot.get r)) := by
  have hsome : ∀ slot ∈ slots, (slot.among? entries).isSome := by
    intro slot hslot
    rw [Slot.among?]
    cases hvalues : valuesAt slot.name entries with
    | nil => exact hdefault slot hslot hvalues
    | cons d more => exact hvalid slot hslot d (by simp [hvalues])
  obtain ⟨r, hr⟩ := h.reads_table hreadable hsome
  obtain ⟨-, hslots⟩ := h.reads_table_iff.mp hr
  refine ⟨r, hr, fun slot hslot => ⟨fun d hd => ?_, fun hnone => ?_⟩⟩
  · have honce := hreadable.once slot.name (List.mem_map_of_mem hslot)
    obtain ⟨only, honly⟩ := List.length_eq_one_iff.mp
      (Nat.le_antisymm honce (List.length_pos_of_mem hd))
    have hslot' := hslots slot hslot
    rw [honly] at hd
    obtain rfl := List.mem_singleton.mp hd
    rwa [Slot.among?, honly] at hslot'
  · have hslot' := hslots slot hslot
    rwa [Slot.among?, hnone] at hslot'

/-- **One more field in a table** changes what is read in this field only. -/
lemma of_insert (h : ReadBySlots dialect slots ofDocument?) {slot : Slot R} (hslot : slot ∈ slots)
    {front back : List (Option String × Document)} {d : Document} {put : R → R}
    (hnew : valuesAt slot.name (front ++ back) = []) (hdefault : slot.default?.isSome)
    (hput : ∀ r, slot.default? = some (slot.get r) → slot.read? d = some (slot.get (put r)))
    (hothers : ∀ r, ∀ other ∈ slots, other.name ≠ slot.name → other.get (put r) = other.get r) :
    ofDocument? (.table (front ++ (some slot.name, d) :: back))
      = (ofDocument? (.table (front ++ back))).map put := by
  have hvalue := Document.valuesAt_inserted_self d hnew
  have hvalues : ∀ other ∈ slots, other.name ≠ slot.name →
      other.among? (front ++ (some slot.name, d) :: back) = other.among? (front ++ back) := by
    intro other hmem hne
    rw [Slot.among?, Slot.among?, Document.valuesAt_inserted_of_ne d hne]
  have hreadable : Document.Readable (slots.map Slot.name) (front ++ (some slot.name, d) :: back)
      ↔ Document.Readable (slots.map Slot.name) (front ++ back) :=
    Document.readable_inserted_iff d hnew
  -- Names are not given twice, so only the slot itself has this name.
  have hother : ∀ other ∈ slots, other.name = slot.name → other = slot :=
    fun other hmem => List.inj_on_of_nodup_map h.names_nodup hmem hslot
  cases hread : ofDocument? (.table (front ++ back)) with
  | some r =>
      obtain ⟨hall, hslots⟩ := h.reads_table_iff.mp hread
      refine h.reads_table_iff.mpr ⟨hreadable.mpr hall, fun other hmem => ?_⟩
      by_cases hsame : other.name = slot.name
      · obtain rfl := hother other hmem hsame
        have hleft := hslots other hmem
        rw [Slot.among?, hnew] at hleft
        rw [Slot.among?, hvalue]
        exact hput r hleft
      · rw [hvalues other hmem hsame, hothers r other hmem hsame]
        exact hslots other hmem
  | none =>
      cases hinserted : ofDocument? (.table (front ++ (some slot.name, d) :: back)) with
      | none => rfl
      | some r =>
          obtain ⟨hall, hslots⟩ := h.reads_table_iff.mp hinserted
          obtain ⟨r', hr'⟩ := h.reads_table (hreadable.mp hall) fun other hmem => by
            by_cases hsame : other.name = slot.name
            · obtain rfl := hother other hmem hsame
              rwa [Slot.among?, hnew]
            · rw [← hvalues other hmem hsame, hslots other hmem]
              rfl
          cases hread.symm.trans hr'

/-! ## Reading back -/

lemma valuesAt_ofEntries (key : String) (entries : List (String × Document)) :
    valuesAt key (entries.map fun (k, value) => (some k, value))
      = entries.filterMap fun (k, value) => if k = key then some value else none := by
  rw [valuesAt, List.filterMap_map]
  simp

/-- What is written for a slot stands where it is looked up, and nothing else does. -/
lemma valuesAt_written (hnodup : (slots.map Slot.name).Nodup) (r : R) {slot : Slot R}
    (hslot : slot ∈ slots) :
    valuesAt slot.name ((Slot.written slots r).map fun (k, value) => (some k, value))
      = (slot.write? r).toList := by
  have hothers : ∀ slots : List (Slot R), slot.name ∉ slots.map Slot.name →
      valuesAt slot.name ((Slot.written slots r).map fun (k, value) => (some k, value)) = [] := by
    intro slots hslots
    rw [valuesAt_ofEntries, List.filterMap_eq_nil_iff]
    rintro ⟨k, value⟩ hentry
    obtain ⟨other, hother, hmap⟩ := List.mem_filterMap.mp hentry
    obtain ⟨d, -, heq⟩ := Option.map_eq_some_iff.mp hmap
    obtain ⟨rfl, rfl⟩ := Prod.mk.inj heq
    refine if_neg fun hname => hslots ?_
    exact hname ▸ List.mem_map_of_mem hother
  induction slots with
  | nil => cases hslot
  | cons first slots ih =>
      obtain ⟨hfirst, hnodup⟩ := List.nodup_cons.mp hnodup
      have hsplit : Slot.written (first :: slots) r
          = ((first.write? r).map fun d => (first.name, d)).toList ++ Slot.written slots r := by
        rw [Slot.written, List.filterMap_cons]
        cases first.write? r <;> rfl
      rw [hsplit, List.map_append, Document.valuesAt_append]
      rcases List.mem_cons.mp hslot with rfl | hslot
      · rw [hothers slots hfirst, List.append_nil]
        cases slot.write? r with
        | none => rfl
        | some d => simp [valuesAt]
      · have hne : first.name ≠ slot.name := fun hname =>
          hfirst (hname ▸ List.mem_map_of_mem hslot)
        rw [ih hnodup hslot]
        cases first.write? r with
        | none => rfl
        | some d => simp [valuesAt, hne]

/-- Only slots are written, in their order. -/
lemma map_fst_written_sublist (slots : List (Slot R)) (r : R) :
    ((Slot.written slots r).map Prod.fst).Sublist (slots.map Slot.name) := by
  induction slots with
  | nil => exact .slnil
  | cons slot slots ih =>
      rw [Slot.written, List.filterMap_cons]
      cases slot.write? r with
      | none => exact ih.cons slot.name
      | some d => exact ih.cons_cons slot.name

/-- **A record that has been written is read back**, if every slot of it is written faithfully. -/
lemma of_written (h : ReadBySlots dialect slots ofDocument?) {r : R}
    (hfaithful : ∀ slot ∈ slots, slot.Faithful r) :
    ofDocument? (.ofEntries (Slot.written slots r)) = some r := by
  have hat : ∀ slot ∈ slots,
      valuesAt slot.name ((Slot.written slots r).map fun (k, value) => (some k, value))
        = (slot.write? r).toList := fun slot => valuesAt_written h.names_nodup r
  have hreadable : Document.Readable (slots.map Slot.name)
      ((Slot.written slots r).map fun (k, value) => (some k, value)) := by
    constructor
    · rintro entry hentry
      obtain ⟨_, -, rfl⟩ := List.mem_map.mp hentry
      rfl
    · rintro name hname
      obtain ⟨slot, hslot, rfl⟩ := List.mem_map.mp hname
      rw [hat slot hslot]
      exact Option.length_toList_le
  obtain ⟨r', hr', hslots⟩ := h.of_table hreadable
    (fun slot hslot d hd => by
      have hd : slot.write? r = some d := by simpa [hat slot hslot] using hd
      have hslot := hfaithful slot hslot
      rw [Slot.Faithful, hd] at hslot
      exact hslot ▸ rfl)
    (fun slot hslot hnone => by
      have hnone : slot.write? r = none := by simpa [hat slot hslot] using hnone
      have hslot := hfaithful slot hslot
      rw [Slot.Faithful, hnone] at hslot
      exact hslot ▸ rfl)
  have hsame : r' = r := by
    refine h.ext r' r fun slot hslot => ?_
    obtain ⟨hgiven, hleft⟩ := hslots slot hslot
    have hback := hfaithful slot hslot
    rw [hat slot hslot] at hgiven hleft
    cases hwrite : slot.write? r with
    | none =>
        rw [Slot.Faithful, hwrite] at hback
        exact Option.some.inj ((hleft (by rw [hwrite]; rfl)).symm.trans hback)
    | some d =>
        rw [Slot.Faithful, hwrite] at hback
        exact Option.some.inj ((hgiven d (by simp [hwrite])).symm.trans hback)
  exact hsame ▸ hr'

end ReadBySlots

end AgentLaunch
