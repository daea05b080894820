import AgentLaunch.Proofs.Document.TomlValues
import AgentLaunch.Proofs.Traversal

/-!
# TOML texts are read back

A text that has been written is a sequence of lines, and each of them is one step of the reader: a
header puts the last table into the tree and begins another one, an entry adds to the table that is
being filled, and a blank line does nothing.

* `Bare` — names that need no quotes.
* `Reads` — what is made of the lines of a text, with a law for each kind of line.
* `Proper` — sections that can be written and told apart again.
* **`read?_print?`** — what has been written is read back.

`Reads` relates two constructions by the lines that lead from one to the other, and hides the bound
of the reader: a line is one step of it, whatever follows.  Composed, the lines of a section fill
its table, by induction on its entries, and the sections one after another fill the tree.  At the
end the tree is turned into a document, in which the entries stand in the order in which they were
written.

`Proper` says what has to be true of sections for that: their names are bare and differ, and so do
the keys within each.  Only then does a header begin a table that is not there yet.
-/

namespace AgentLaunch.Toml

/-! ## Names -/

/-- A name that is written as it is. -/
structure Bare (name : String) : Prop where
  nonempty : name.toList ≠ []
  plain : ∀ c ∈ name.toList, isKeyChar c = true

instance (name : String) : Decidable (Bare name) :=
  decidable_of_iff (name.toList ≠ [] ∧ name.toList.all isKeyChar = true)
    ⟨fun h => ⟨h.1, List.all_eq_true.mp h.2⟩, fun h => ⟨h.1, List.all_eq_true.mpr h.2⟩⟩

section Names

variable {name : String} {tail : List Char}

lemma Bare.exists_cons (h : Bare name) : ∃ c more, name.toList = c :: more
    ∧ isKeyChar c = true ∧ ∀ d ∈ more, isKeyChar d = true := by
  obtain ⟨c, more, hmore⟩ := List.exists_cons_of_ne_nil h.nonempty
  exact ⟨c, more, hmore, h.plain c (hmore ▸ List.mem_cons_self),
    fun d hd => h.plain d (hmore ▸ List.mem_cons_of_mem c hd)⟩

lemma ne_of_isKeyChar {c d : Char} (hc : isKeyChar c = true) (hd : isKeyChar d = false) :
    c ≠ d := by
  rintro rfl
  rw [hc] at hd
  cases hd

lemma skipBlanks_of_isKeyChar {c : Char} (hc : isKeyChar c = true) (tail : List Char) :
    skipBlanks (c :: tail) = c :: tail := by
  have hblank : isBlank c = false := by
    rw [isBlank, beq_eq_false_iff_ne.mpr (ne_of_isKeyChar hc (by decide)),
      beq_eq_false_iff_ne.mpr (ne_of_isKeyChar hc (by decide))]
    rfl
  rw [skipBlanks, List.dropWhile_cons, hblank]
  rfl

/-- A name ends where its characters end. -/
lemma readKeyPart?_bare (h : Bare name) (hend : ∀ c ∈ tail.head?, isKeyChar c = false) :
    readKeyPart? (name.toList ++ tail) = some (name, tail) := by
  obtain ⟨c, more, hmore, hc, -⟩ := h.exists_cons
  have hnone : tail.takeWhile isKeyChar = [] ∧ tail.dropWhile isKeyChar = tail := by
    cases tail with
    | nil => exact ⟨rfl, rfl⟩
    | cons d tail =>
        have hd := hend d rfl
        rw [List.takeWhile_cons, List.dropWhile_cons, hd]
        exact ⟨rfl, rfl⟩
  have htake : (name.toList ++ tail).takeWhile isKeyChar = name.toList := by
    rw [List.takeWhile_append_of_pos h.plain, hnone.1, List.append_nil]
  have hdrop : (name.toList ++ tail).dropWhile isKeyChar = tail := by
    rw [List.dropWhile_append_of_pos h.plain, hnone.2]
  unfold readKeyPart?
  split
  · rename_i heq
    rw [hmore, List.cons_append] at heq
    exact absurd (List.cons.inj heq).1 (ne_of_isKeyChar hc (by decide))
  · rename_i heq
    rw [hmore, List.cons_append] at heq
    exact absurd (List.cons.inj heq).1 (ne_of_isKeyChar hc (by decide))
  · rw [htake, hdrop]
    have hempty : ¬ name.toList.isEmpty = true := by simp [hmore]
    dsimp only
    rw [if_neg hempty, Option.map_some, String.ofList_toList]

/-- A name is a key of one part, unless a dot follows. -/
lemma readKey?_bare (h : Bare name) (hend : ∀ c ∈ tail.head?, isKeyChar c = false)
    (hdot : (skipBlanks tail).head? ≠ some '.') :
    readKey? (name.toList ++ tail) = some ([name], skipBlanks tail) := by
  obtain ⟨c, more, hmore, hc, -⟩ := h.exists_cons
  have hskip : skipBlanks (name.toList ++ tail) = name.toList ++ tail := by
    rw [hmore, List.cons_append, skipBlanks_of_isKeyChar hc]
  rw [readKey?, depthLimit, readKeyParts?, hskip, readKeyPart?_bare h hend, Option.bind_eq_bind,
    Option.bind_some]
  dsimp only
  split
  · rename_i heq
    exact absurd (by rw [heq]; rfl) hdot
  · rfl

end Names

/-! ## Lines -/

/-- `Reads c cs c'`: the lines of `cs` turn the construction `c` into `c'`. -/
def Reads (c : Construction) (cs : List Char) (c' : Construction) : Prop :=
  ∀ n, cs.length < n → readLinesInto? n c cs = some c'

section Lines

variable {c c₁ c' : Construction} {rest : List Char}

lemma Reads.nil (c : Construction) : Reads c [] c := by
  rintro n hn
  obtain ⟨n, rfl⟩ := Nat.exists_eq_add_one.mpr hn
  rfl

/-- A blank line does nothing. -/
lemma Reads.blank (h : Reads c rest c') : Reads c ('\n' :: rest) c' := by
  rintro n hn
  obtain ⟨n, rfl⟩ := Nat.exists_eq_add_one.mpr (Nat.zero_lt_of_lt hn)
  exact h n (by simpa using hn)

lemma skipLineEnd?_newline (rest : List Char) : skipLineEnd? ('\n' :: rest) = some rest := rfl

/-- A header begins another table. -/
lemma Reads.header {name : String} (hname : Bare name) (hbegin : c.begin? false [name] = some c₁)
    (h : Reads c₁ rest c') : Reads c ('[' :: name.toList ++ ']' :: '\n' :: rest) c' := by
  rintro n hn
  obtain ⟨n, rfl⟩ := Nat.exists_eq_add_one.mpr (Nat.zero_lt_of_lt hn)
  have hkey : readKey? (name.toList ++ ']' :: '\n' :: rest) = some ([name], ']' :: '\n' :: rest) :=
    readKey?_bare hname (by simp [isKeyChar]) (by simp [skipBlanks, isBlank])
  have hheader : readHeader? c (name.toList ++ ']' :: '\n' :: rest) = some (c₁, rest) := by
    obtain ⟨d, more, hmore, hd, -⟩ := hname.exists_cons
    rw [hmore, List.cons_append] at hkey ⊢
    rw [readHeader?.eq_2 _ _ (fun _ heq => ne_of_isKeyChar hd (by decide) (List.cons.inj heq).1),
      hkey]
    simp [skipChar?, hbegin, skipLineEnd?_newline]
  have hrest := h n (by simp only [List.length_cons, List.length_append] at hn; omega)
  rw [List.cons_append, readLinesInto?]
  exact Option.bind_eq_some_iff.mpr ⟨_, hheader, hrest⟩

/-- A name, an equals sign and a value are read as an entry. -/
lemma readEntry?_bare {name value : String} {d : Document} (hname : Bare name) (hd : Plain d)
    (hvalue : valueText? d = some value) (hadd : c.add? [name] d = some c₁) :
    readEntry? c (name.toList ++ ' ' :: '=' :: ' ' :: (value.toList ++ '\n' :: rest))
      = some (c₁, rest) := by
  have hkey : readKey? (name.toList ++ ' ' :: '=' :: ' ' :: (value.toList ++ '\n' :: rest))
      = some ([name], '=' :: ' ' :: (value.toList ++ '\n' :: rest)) :=
    readKey?_bare hname (by simp [isKeyChar]) (by simp [skipBlanks, isBlank])
  have hread := readValue?_valueText? depthLimit rest hd hvalue
  have hskip : skipBlanks (' ' :: (value.toList ++ '\n' :: rest))
      = value.toList ++ '\n' :: rest := by
    obtain ⟨e, more, hmore, he⟩ := head_of_valueText? hd hvalue
    rw [hmore, skipBlanks, List.dropWhile_cons, List.cons_append, List.dropWhile_cons, he]
    rfl
  unfold readEntry?
  refine Option.bind_eq_some_iff.mpr ⟨_, hkey, ?_⟩
  refine Option.bind_eq_some_iff.mpr ⟨' ' :: (value.toList ++ '\n' :: rest), rfl, ?_⟩
  refine Option.bind_eq_some_iff.mpr ⟨_, hskip ▸ hread, ?_⟩
  refine Option.bind_eq_some_iff.mpr ⟨_, skipLineEnd?_newline rest, ?_⟩
  exact Option.bind_eq_some_iff.mpr ⟨_, hadd, rfl⟩

/-- A line that begins with a name is an entry. -/
lemma readLinesInto?_of_isKeyChar {d : Char} (hd : isKeyChar d = true) {tail : List Char}
    (hentry : readEntry? c (d :: tail) = some (c₁, rest)) (n : Nat) :
    readLinesInto? (n + 1) c (d :: tail) = readLinesInto? n c₁ rest := by
  have hne : ∀ e, isKeyChar e = false → ∀ tail', d :: tail ≠ e :: tail' := fun e he _ heq =>
    ne_of_isKeyChar hd he (List.cons.inj heq).1
  have hnewline : skipNewline? (d :: tail) = none := by
    unfold skipNewline?
    split
    · exact absurd ‹_› (hne _ (by decide) _)
    · exact absurd ‹_› (hne _ (by decide) _)
    · rfl
  rw [readLinesInto?, skipBlanks_of_isKeyChar hd]
  split
  · rename_i heq
    cases heq
  · exact absurd ‹_› (hne _ (by decide) _)
  · exact absurd ‹_› (hne _ (by decide) _)
  · rw [hnewline]
    dsimp only
    rw [hentry]
    rfl

/-- An entry adds to the table that is being filled. -/
lemma Reads.entry {name text : String} {d : Document} (hname : Bare name) (hd : Plain d)
    (htext : entryText? (name, d) = some text) (hadd : c.add? [name] d = some c₁)
    (h : Reads c₁ rest c') : Reads c (text.toList ++ rest) c' := by
  rintro n hn
  obtain ⟨n, rfl⟩ := Nat.exists_eq_add_one.mpr (Nat.zero_lt_of_lt hn)
  obtain ⟨value, hvalue, rfl⟩ := Option.map_eq_some_iff.mp htext
  have hsplit : (name ++ " = " ++ value ++ "\n").toList ++ rest
      = name.toList ++ ' ' :: '=' :: ' ' :: (value.toList ++ '\n' :: rest) := by
    simp
  rw [hsplit] at hn ⊢
  have hentry : readEntry? c (name.toList ++ ' ' :: '=' :: ' ' :: (value.toList ++ '\n' :: rest))
      = some (c₁, rest) := readEntry?_bare hname hd hvalue hadd
  have hrest := h n (by simp only [List.length_cons, List.length_append] at hn; omega)
  obtain ⟨e, more, hmore, he, -⟩ := hname.exists_cons
  rw [hmore, List.cons_append] at hentry ⊢
  rw [readLinesInto?_of_isKeyChar he hentry, hrest]

end Lines

/-! ## Sections -/

/-- The entries of a table in which plain values are written. -/
def nodes (entries : List (String × Document)) : Entries :=
  entries.map fun (key, d) => (key, .value d)

/-- The tree of sections. -/
def tables (sections : List Section) : Entries :=
  sections.map fun s => (s.1, .table .explicit (nodes s.2))

/-- Sections that can be written and told apart again. -/
structure Proper (sections : List Section) : Prop where
  names : ∀ s ∈ sections, Bare s.1
  distinct : (sections.map Prod.fst).Nodup
  keys : ∀ s ∈ sections, ∀ entry ∈ s.2, Bare entry.1 ∧ Plain entry.2
  once : ∀ s ∈ sections, (s.2.map Prod.fst).Nodup

section Sections

variable {c c' : Construction} {rest : List Char} {entries : List (String × Document)}
  {texts : List String}

lemma lookup_eq_none {α : Type} {key : String} {es : List (String × α)}
    (h : key ∉ es.map Prod.fst) : es.lookup key = none := by
  refine List.lookup_eq_none_iff.mpr fun p hp => bne_iff_ne.mpr ?_
  rintro rfl
  exact h (List.mem_map_of_mem hp)

lemma map_fst_tables (sections : List Section) :
    (tables sections).map Prod.fst = sections.map Prod.fst := by
  rw [tables, List.map_map]
  rfl

/-- The entries of a section fill its table. -/
lemma Reads.fill (hkeys : ∀ entry ∈ entries, Bare entry.1 ∧ Plain entry.2)
    (honce : (c.current.map Prod.fst ++ entries.map Prod.fst).Nodup)
    (htexts : List.Forall₂ (fun entry text => entryText? entry = some text) entries texts)
    (h : Reads { c with current := c.current ++ nodes entries } rest c') :
    Reads c (texts.flatMap String.toList ++ rest) c' := by
  induction htexts generalizing c with
  | nil => simpa [nodes] using h
  | @cons entry text entries texts htext _ ih =>
      obtain ⟨⟨hname, hd⟩, hothers⟩ := List.forall_mem_cons.mp hkeys
      have hnew : entry.1 ∉ c.current.map Prod.fst := by
        intro hold
        exact (List.nodup_append.mp honce).2.2 _ hold entry.1 (by simp) rfl
      have hadd : c.add? [entry.1] entry.2
          = some { c with current := c.current ++ [(entry.1, .value entry.2)] } := by
        simp [Construction.add?, Entries.insert?, lookup_eq_none hnew]
      rw [List.flatMap_cons, List.append_assoc]
      refine .entry hname hd htext hadd (ih hothers ?_ ?_)
      · simpa using honce
      · simpa [nodes] using h

/-- A section that is read after others adds its table to theirs. -/
lemma Reads.section {done : List Section} {s : Section} {text : String} (hname : Bare s.1)
    (hnew : s.1 ∉ done.map Prod.fst) (hkeys : ∀ entry ∈ s.2, Bare entry.1 ∧ Plain entry.2)
    (honce : (s.2.map Prod.fst).Nodup) (htext : sectionText? s = some text)
    (hfinish : c.finish? = some (tables done)) :
    ∃ c₁ : Construction, c₁.finish? = some (tables (done ++ [s]))
      ∧ ∀ {rest c'}, Reads c₁ rest c' → Reads c (text.toList ++ rest) c' := by
  obtain ⟨texts, htexts, heq⟩ := Option.bind_eq_some_iff.mp htext
  obtain rfl := Option.some.inj heq
  have hlookup : (tables done).lookup s.1 = none :=
    lookup_eq_none (by rwa [map_fst_tables])
  have hbegin : c.begin? false [s.1]
      = some { root := tables done, path := [s.1], repeated := false, current := [] } := by
    simp [Construction.begin?, hfinish, Entries.within?, Entries.takeImplied?, hlookup]
  refine ⟨{ root := tables done, path := [s.1], repeated := false, current := nodes s.2 }, ?_, ?_⟩
  · have hput : Entries.putTable? s.1 (nodes s.2) (tables done)
        = some (tables done ++ [(s.1, .table .explicit (nodes s.2))], ()) := by
      rw [Entries.putTable?, hlookup]
    have hadded : tables (done ++ [s]) = tables done ++ [(s.1, .table .explicit (nodes s.2))] := by
      rw [tables, List.map_append]
      rfl
    rw [hadded]
    exact congrArg (Option.map Prod.fst) hput
  · intro rest c' h
    have hsplit : ("[" ++ s.1 ++ "]\n" ++ String.join texts).toList ++ rest
        = '[' :: s.1.toList ++ ']' :: '\n' :: (texts.flatMap String.toList ++ rest) := by
      simp
    rw [hsplit]
    exact .header hname hbegin (.fill hkeys (by simpa using honce) (mapM_eq_some_iff.mp htexts) h)

/-- The lines of all sections, with blank lines between them. -/
lemma reads_sections (done : List Section) {sections : List Section}
    (hproper : Proper (done ++ sections))
    (htexts : List.Forall₂ (fun s text => sectionText? s = some text) sections texts)
    (hfinish : c.finish? = some (tables done)) :
    ∃ c', Reads c ("\n".intercalate texts).toList c'
      ∧ c'.finish? = some (tables (done ++ sections)) := by
  induction htexts generalizing c done with
  | nil => exact ⟨c, .nil c, by rwa [List.append_nil]⟩
  | @cons s text sections texts htext htexts ih =>
      have hmem : s ∈ done ++ s :: sections := by simp
      have hdistinct := hproper.distinct
      rw [List.map_append] at hdistinct
      have hnew : s.1 ∉ done.map Prod.fst := fun hold =>
        (List.nodup_append.mp hdistinct).2.2 _ hold s.1 (by simp) rfl
      have hrest : Proper ((done ++ [s]) ++ sections) := by simpa using hproper
      obtain ⟨c₁, hfinish₁, hreads⟩ := Reads.section (hproper.names s hmem) hnew
        (hproper.keys s hmem) (hproper.once s hmem) htext hfinish
      obtain ⟨c', hreads', hfinish'⟩ := ih (done ++ [s]) hrest hfinish₁
      refine ⟨c', ?_, by simpa using hfinish'⟩
      cases htexts with
      | nil => simpa using hreads hreads'
      | cons =>
          rw [String.intercalate_cons_of_ne_nil (by simp)]
          simpa using hreads hreads'.blank

lemma entriesDocument_nodes (entries : List (String × Document)) :
    entriesDocument (nodes entries) = entries.map fun (key, d) => (some key, d) := by
  induction entries with
  | nil => rfl
  | cons entry entries ih =>
      rw [nodes, List.map_cons, entriesDocument, ← nodes, ih]
      rfl

lemma entriesDocument_tables (sections : List Section) :
    entriesDocument (tables sections)
      = (sections.map fun s => (s.1, Document.ofEntries s.2)).map
        fun (key, d) => (some key, d) := by
  induction sections with
  | nil => rfl
  | cons s sections ih =>
      rw [tables, List.map_cons, entriesDocument, ← tables, ih, Node.document,
        entriesDocument_nodes]
      rfl

/-- What has been written does not begin with a byte order mark. -/
lemma skipMark_of_sections {sections : List Section}
    (htexts : List.Forall₂ (fun s text => sectionText? s = some text) sections texts) :
    skipMark ("\n".intercalate texts).toList = ("\n".intercalate texts).toList := by
  cases htexts with
  | nil => rfl
  | @cons s text sections texts htext _ =>
      obtain ⟨entries, -, heq⟩ := Option.bind_eq_some_iff.mp htext
      obtain rfl := Option.some.inj heq
      rcases texts with _ | ⟨other, more⟩
      · simp [skipMark]
      · simp [skipMark, String.intercalate_cons_cons]

/-- **What has been written is read back**, section by section. -/
lemma read?_print? {sections : List Section} {text : String} (hproper : Proper sections)
    (htext : print? sections = some text) :
    read? text = some (.ofEntries (sections.map fun s => (s.1, .ofEntries s.2))) := by
  obtain ⟨texts, htexts, heq⟩ := Option.bind_eq_some_iff.mp htext
  obtain rfl := Option.some.inj heq
  replace htexts := mapM_eq_some_iff.mp htexts
  obtain ⟨c', hreads, hfinish⟩ := reads_sections (c := {}) [] hproper htexts rfl
  unfold read?
  rw [skipMark_of_sections htexts]
  refine Option.bind_eq_some_iff.mpr ⟨c', hreads _ (Nat.lt_succ_self _), ?_⟩
  refine Option.bind_eq_some_iff.mpr ⟨_, hfinish, ?_⟩
  rw [List.nil_append, entriesDocument_tables]
  rfl

/-- Sections can be written if all their values can. -/
lemma isSome_print?_iff {sections : List Section} :
    (print? sections).isSome ↔ ∀ s ∈ sections, ∀ entry ∈ s.2, (valueText? entry.2).isSome := by
  have hentry : ∀ entry, (entryText? entry).isSome ↔ (valueText? entry.2).isSome := by
    simp [entryText?]
  have hsection : ∀ s : Section,
      (sectionText? s).isSome ↔ ∀ entry ∈ s.2, (valueText? entry.2).isSome := by
    intro s
    rw [← forall₂_congr fun entry _ => hentry entry, ← isSome_mapM_iff, sectionText?]
    cases s.2.mapM entryText? <;> simp
  rw [← forall₂_congr fun s _ => hsection s, ← isSome_mapM_iff, print?]
  cases sections.mapM sectionText? <;> simp

end Sections

end AgentLaunch.Toml
