import AgentLaunch.Files.Tree
import Mathlib.Tactic.Common

/-!
# Writing files

Writing a file or making a directory changes one place of the tree.  All directories stay and keep
their names, so a path that led somewhere still leads there, and all other files stay as they are.

* `FileTree.find?_put_self`, `FileTree.find?_put_other` — a tree in which something has been put.
* `FileSystem.KeepsDirs` — all paths still lead where they led; `KeepsDirs.descendAll`.
* **`FileSystem.makeDirs_keeps`** — making directories leaves the contents of all files:
  `Keeps.read`.
* `FileSystem.write_eq_ok_iff` — whether a file can be written does not depend on what is written.
* **`FileSystem.read_of_write`** — what has been written is read.

Paths are looked up step by step, with names that lead down and dots that lead up, so it is not
enough that the contents of other files are unchanged: every step on the way must still be possible.
`FileTree.Grows` is the relation that ensures it.  A directory may get more names and keeps the ones
it has, and a file stays a file with the same contents; it is a preorder, so making several
directories one after another is covered by making one.

Writing a file replaces contents and is no growth in this sense.  There `KeepsDirs` is what is left,
and it is enough to find the file again under the same path.
-/

namespace AgentLaunch

namespace FileTree

/-! ## Trees in which something has been put -/

section Entries

variable {entries : List (String × FileTree)} {name other : String} {t : FileTree}

lemma lookup_replaced (entries : List (String × FileTree)) (name other : String) (t : FileTree) :
    (entries.filter (·.1 != name) ++ [(name, t)]).lookup other
      = if other = name then some t else entries.lookup other := by
  induction entries with
  | nil =>
      by_cases h : other = name
      · simp [h]
      · have hne : (other == name) = false := beq_eq_false_iff_ne.mpr h
        simp [List.lookup_cons, hne, h]
  | cons entry entries ih =>
      obtain ⟨first, u⟩ := entry
      by_cases hfirst : first = name
      · subst hfirst
        rw [List.filter_cons_of_neg (by simp), ih]
        by_cases h : other = first
        · rw [if_pos h, if_pos h]
        · have hne : (other == first) = false := beq_eq_false_iff_ne.mpr h
          rw [if_neg h, if_neg h, List.lookup_cons, hne]
      · rw [List.filter_cons_of_pos (by simpa using hfirst), List.cons_append, List.lookup_cons,
          List.lookup_cons, ih]
        by_cases h : other = first
        · subst h
          simp [hfirst]
        · have hne : (other == first) = false := beq_eq_false_iff_ne.mpr h
          rw [hne]

end Entries

section Put

variable {t u new : FileTree} {place q : List String} {entries : List (String × FileTree)}
  {name : String} {contents : Bytes}

lemma find?_cons_dir (entries : List (String × FileTree)) (name : String) (rest : List String) :
    (dir entries).find? (name :: rest) = (entries.lookup name).bind (find? rest) := rfl

/-- A place that has a subdirectory is a directory with it. -/
lemma exists_of_find?_cons {rest : List String} (h : t.find? (name :: rest) = some u) :
    ∃ entries inner, t = dir entries ∧ entries.lookup name = some inner
      ∧ inner.find? rest = some u := by
  cases t with
  | file contents => cases h
  | dir entries =>
      obtain ⟨inner, hinner, hrest⟩ := Option.bind_eq_some_iff.mp h
      exact ⟨entries, inner, rfl, hinner, hrest⟩

lemma find?_append_singleton (t : FileTree) (place : List String) (name : String) :
    t.find? (place ++ [name]) = (t.find? place).bind (find? [name]) := by
  induction place generalizing t with
  | nil => rfl
  | cons first place ih =>
      cases t with
      | file contents => rfl
      | dir entries =>
          rw [List.cons_append, find?_cons_dir, find?_cons_dir, Option.bind_assoc]
          exact congrArg (Option.bind _) (funext ih)

/-- A place in a directory that has no such name. -/
lemma find?_of_lookup_eq_none (hplace : t.find? place = some (dir entries))
    (hnone : entries.lookup name = none) : t.find? (place ++ [name]) = none := by
  rw [find?_append_singleton, hplace, Option.bind_some, find?_cons_dir, hnone]
  rfl

/-- One up from a directory there is one. -/
lemma exists_find?_dropLast (hplace : t.find? place = some (dir entries)) :
    ∃ es, t.find? place.dropLast = some (dir es) := by
  rcases place.eq_nil_or_concat with rfl | ⟨front, last, rfl⟩
  · exact ⟨entries, hplace⟩
  · rw [List.concat_eq_append, find?_append_singleton] at hplace
    obtain ⟨u, hu, hlast⟩ := Option.bind_eq_some_iff.mp hplace
    obtain ⟨es, -, rfl, -⟩ := exists_of_find?_cons hlast
    exact ⟨es, by simpa using hu⟩

/-- What has been put somewhere is there. -/
lemma find?_put_self (hplace : t.find? place = some (dir entries)) (name : String)
    (new : FileTree) : (t.put (place ++ [name]) new).find? (place ++ [name]) = some new := by
  induction place generalizing t with
  | nil =>
      obtain rfl := Option.some.inj hplace
      rw [List.nil_append, put, find?_cons_dir, lookup_replaced, if_pos rfl]
      rfl
  | cons first place ih =>
      obtain ⟨outer, inner, rfl, hinner, hrest⟩ := exists_of_find?_cons hplace
      rw [List.cons_append, put, find?_cons_dir, lookup_replaced, if_pos rfl, hinner]
      exact ih hrest

/-- A file that stays as it is, or a directory that keeps its names. -/
inductive Grows : FileTree → FileTree → Prop where
  | file (contents : Bytes) : Grows (file contents) (file contents)
  | dir {es es' : List (String × FileTree)}
      (hnames : ∀ n, (es.lookup n).isSome → (es'.lookup n).isSome) : Grows (dir es) (dir es')

lemma Grows.refl (t : FileTree) : Grows t t := by
  cases t with
  | file contents => exact .file contents
  | dir es => exact .dir fun _ => id

lemma Grows.trans {t t' t'' : FileTree} (h : Grows t t') (h' : Grows t' t'') : Grows t t'' := by
  cases h with
  | file contents => exact h'
  | dir hnames =>
      cases h' with
      | dir hnames' => exact .dir fun n hn => hnames' n (hnames n hn)

lemma grows_replaced (entries : List (String × FileTree)) (name : String) (t : FileTree) :
    Grows (dir entries) (dir (entries.filter (·.1 != name) ++ [(name, t)])) := by
  refine .dir fun other hother => ?_
  rw [lookup_replaced]
  split_ifs
  · rfl
  · exact hother

/-- Everything else stays, if no directory has been replaced. -/
lemma find?_put_other (new : FileTree) (hplace : t.find? place = some (dir entries))
    (hold : ∀ es, t.find? (place ++ [name]) ≠ some (dir es)) (hq : t.find? q = some u)
    (hne : q ≠ place ++ [name]) :
    ∃ u', (t.put (place ++ [name]) new).find? q = some u' ∧ Grows u u' := by
  induction place generalizing t q with
  | nil =>
      obtain rfl := Option.some.inj hplace
      cases q with
      | nil =>
          obtain rfl := Option.some.inj hq
          exact ⟨_, rfl, grows_replaced entries name new⟩
      | cons second q =>
          have hsecond : second ≠ name := by
            rintro rfl
            obtain ⟨inner, hinner, hrest⟩ := Option.bind_eq_some_iff.mp hq
            cases q with
            | nil => exact hne rfl
            | cons third q =>
                obtain ⟨es, -, rfl, -⟩ := exists_of_find?_cons hrest
                exact hold es (Option.bind_eq_some_iff.mpr ⟨_, hinner, rfl⟩)
          refine ⟨u, ?_, .refl u⟩
          rwa [List.nil_append, put, find?_cons_dir, lookup_replaced, if_neg hsecond]
  | cons first place ih =>
      obtain ⟨outer, inner, rfl, hinner, hrest⟩ := exists_of_find?_cons hplace
      cases q with
      | nil =>
          obtain rfl := Option.some.inj hq
          exact ⟨_, rfl, grows_replaced outer first _⟩
      | cons second q =>
          rw [List.cons_append, put, find?_cons_dir, lookup_replaced]
          by_cases hsecond : second = first
          · subst hsecond
            rw [find?_cons_dir, hinner] at hq
            rw [if_pos rfl, hinner]
            refine ih hrest (fun es hes => hold es ?_) hq fun h => hne (congrArg (second :: ·) h)
            rw [List.cons_append, find?_cons_dir, hinner]
            exact hes
          · rw [if_neg hsecond]
            exact ⟨u, hq, .refl u⟩

end Put

end FileTree

namespace FileSystem

open FileTree (Grows)

/-! ## Paths in a tree that has grown -/

/-- All directories stay and keep their names. -/
structure KeepsDirs (fs fs' : FileSystem) : Prop where
  current : fs'.current = fs.current
  dirs {place : List String} {es : List (String × FileTree)}
    (_ : fs.root.find? place = some (.dir es)) :
    ∃ es', fs'.root.find? place = some (.dir es')
      ∧ ∀ n, (es.lookup n).isSome → (es'.lookup n).isSome

/-- Everything stays, and directories keep their names. -/
structure Keeps (fs fs' : FileSystem) : Prop where
  current : fs'.current = fs.current
  all {place : List String} {t : FileTree} (_ : fs.root.find? place = some t) :
    ∃ t', fs'.root.find? place = some t' ∧ Grows t t'

section Growing

variable {fs fs₁ fs' : FileSystem} {place target : List String} {name path : String}
  {contents : Bytes}

lemma Keeps.refl (fs : FileSystem) : fs.Keeps fs where
  current := rfl
  all h := ⟨_, h, .refl _⟩

lemma Keeps.trans (h : fs.Keeps fs₁) (h' : fs₁.Keeps fs') : fs.Keeps fs' where
  current := h'.current.trans h.current
  all hplace := by
    obtain ⟨t₁, hplace₁, hgrows⟩ := h.all hplace
    obtain ⟨t', hplace', hgrows'⟩ := h'.all hplace₁
    exact ⟨t', hplace', hgrows.trans hgrows'⟩

lemma Keeps.keepsDirs (h : fs.Keeps fs') : fs.KeepsDirs fs' where
  current := h.current
  dirs hplace := by
    obtain ⟨_, hplace', ⟨⟩ | hnames⟩ := h.all hplace
    exact ⟨_, hplace', hnames⟩

/-- The steps that can be taken: none, one up, or one down to a name that is there. -/
lemma descend_eq_ok_iff : fs.descend place name = .ok target
    ↔ ∃ es, fs.root.find? place = some (.dir es)
      ∧ (name = "." ∧ target = place ∨ name = ".." ∧ target = place.dropLast
        ∨ name ≠ "." ∧ name ≠ ".." ∧ ¬ nameLimit < name.utf8ByteSize ∧ (es.lookup name).isSome
          ∧ target = place ++ [name]) := by
  constructor
  · intro h
    rw [descend] at h
    split at h
    · cases h
    · cases h
    · rename_i es hplace
      refine ⟨es, hplace, ?_⟩
      split_ifs at h with hdot hup hlong hthere
      · exact .inl ⟨hdot, (Except.ok.inj h).symm⟩
      · exact .inr (.inl ⟨hup, (Except.ok.inj h).symm⟩)
      · exact .inr (.inr ⟨hdot, hup, hlong, hthere, (Except.ok.inj h).symm⟩)
  · rintro ⟨es, hplace, ⟨rfl, rfl⟩ | ⟨rfl, rfl⟩ | ⟨hdot, hup, hlong, hthere, rfl⟩⟩
    · rw [descend, hplace]
      exact if_pos rfl
    · rw [descend, hplace]
      exact (if_neg (by decide)).trans (if_pos rfl)
    · rw [descend, hplace]
      dsimp only
      rw [if_neg hdot, if_neg hup, if_neg hlong, if_pos hthere]

/-- A name that is missing in a directory. -/
lemma lookup_of_descend_notFound {es : List (String × FileTree)}
    (hplace : fs.root.find? place = some (.dir es))
    (h : fs.descend place name = .error .notFound) :
    name ≠ "." ∧ name ≠ ".." ∧ ¬ nameLimit < name.utf8ByteSize ∧ es.lookup name = none := by
  rw [descend, hplace] at h
  dsimp only at h
  split_ifs at h with hdot hup hlong hthere
  · cases h
  · exact ⟨hdot, hup, hlong, Option.not_isSome_iff_eq_none.mp hthere⟩

lemma KeepsDirs.descend (h : fs.KeepsDirs fs') (hdescend : fs.descend place name = .ok target) :
    fs'.descend place name = .ok target := by
  obtain ⟨es, hplace, hstep⟩ := descend_eq_ok_iff.mp hdescend
  obtain ⟨es', hplace', hnames⟩ := h.dirs hplace
  refine descend_eq_ok_iff.mpr ⟨es', hplace', hstep.imp_right (Or.imp_right ?_)⟩
  rintro ⟨hdot, hup, hshort, hthere, rfl⟩
  exact ⟨hdot, hup, hshort, hnames name hthere, rfl⟩

lemma KeepsDirs.descendAll (h : fs.KeepsDirs fs') {names : List String}
    (hdescend : names.foldlM fs.descend place = .ok target) :
    names.foldlM fs'.descend place = .ok target := by
  induction names generalizing place with
  | nil => exact hdescend
  | cons name names ih =>
      rw [List.foldlM_cons] at hdescend ⊢
      cases hstep : fs.descend place name with
      | error e =>
          rw [hstep] at hdescend
          cases hdescend
      | ok next =>
          rw [hstep] at hdescend
          rw [h.descend hstep]
          exact ih hdescend

lemma KeepsDirs.start_eq (h : fs.KeepsDirs fs') (path : String) :
    fs'.start path = fs.start path := by
  rw [start, start, h.current]

/-- A path can be looked up, leads somewhere, and does not ask for a directory where a file is. -/
lemma locate_eq_ok_iff : fs.locate path = .ok target
    ↔ checked path = .ok () ∧ (Path.names path).foldlM fs.descend (fs.start path) = .ok target
      ∧ ∀ contents, fs.root.find? target = some (.file contents) →
        Path.endsWithSlash path = false := by
  rw [locate]
  cases hchecked : checked path with
  | error e => simp [bind, Except.bind]
  | ok _ =>
      cases hfold : (Path.names path).foldlM fs.descend (fs.start path) with
      | error e => simp [bind, Except.bind]
      | ok place =>
          simp only [bind, Except.bind, true_and]
          cases hplace : fs.root.find? place with
          | none =>
              refine ⟨fun h => ⟨h, ?_⟩, fun h => h.1⟩
              rintro contents hfile
              obtain rfl := Except.ok.inj h
              simp [hplace] at hfile
          | some t =>
              cases t with
              | dir es =>
                  refine ⟨fun h => ⟨h, ?_⟩, fun h => h.1⟩
                  rintro contents hfile
                  obtain rfl := Except.ok.inj h
                  simp [hplace] at hfile
              | file contents =>
                  cases hslash : Path.endsWithSlash path with
                  | true =>
                      simp only [if_true, reduceCtorEq, false_iff, not_and, not_forall]
                      rintro h
                      obtain rfl := Except.ok.inj h
                      exact ⟨contents, hplace, by simp⟩
                  | false => simp [pure, Except.pure]

/-- What a path stands for is read if it is a file. -/
lemma read_eq_ok_iff : fs.read path = .ok contents
    ↔ ∃ target, fs.locate path = .ok target ∧ fs.root.find? target = some (.file contents) := by
  rw [read]
  cases hlocate : fs.locate path with
  | error e => simp [bind, Except.bind]
  | ok target =>
      simp only [bind, Except.bind, Except.ok.injEq, exists_eq_left']
      cases hplace : fs.root.find? target with
      | none => simp
      | some t =>
          cases t with
          | dir es => simp
          | file other => simp [pure, Except.pure]

lemma locateParent_eq_ok_iff {name? : Option String} : fs.locateParent path = .ok (place, name?)
    ↔ checked path = .ok ()
      ∧ (Path.names path).dropLast.foldlM fs.descend (fs.start path) = .ok place
      ∧ (Path.names path).getLast? = name? := by
  rw [locateParent]
  cases hchecked : checked path with
  | error e => simp [bind, Except.bind]
  | ok _ =>
      cases hfold : (Path.names path).dropLast.foldlM fs.descend (fs.start path) with
      | error e => simp [bind, Except.bind, hfold]
      | ok found => simp [bind, Except.bind, pure, Except.pure, hfold]

/-- Where everything stays, all files can still be read. -/
lemma Keeps.read (h : fs.Keeps fs') (hread : fs.read path = .ok contents) :
    fs'.read path = .ok contents := by
  obtain ⟨target, hlocate, hfile⟩ := read_eq_ok_iff.mp hread
  obtain ⟨hchecked, hfold, hslash⟩ := locate_eq_ok_iff.mp hlocate
  obtain ⟨_, hfile', ⟨⟩ | _⟩ := h.all hfile
  refine read_eq_ok_iff.mpr ⟨target, locate_eq_ok_iff.mpr ⟨hchecked, ?_, ?_⟩, hfile'⟩
  · rw [h.keepsDirs.start_eq]
    exact h.keepsDirs.descendAll hfold
  · exact fun _ _ => hslash contents hfile

end Growing

/-! ## Making directories -/

section Directories

variable {fs fs' : FileSystem} {path : String}

lemma put_keeps {place : List String} {es : List (String × FileTree)} {name : String}
    (hplace : fs.root.find? place = some (.dir es)) (hnone : es.lookup name = none)
    (new : FileTree) : fs.Keeps (fs.put (place ++ [name]) new) where
  current := rfl
  all {q u} hq := by
    have habsent := FileTree.find?_of_lookup_eq_none hplace hnone
    refine FileTree.find?_put_other _ hplace (by simp [habsent]) hq ?_
    rintro rfl
    rw [habsent] at hq
    cases hq

lemma makeDir_keeps (h : fs.makeDir path = .ok fs') : fs.Keeps fs' := by
  rw [makeDir] at h
  cases hparent : fs.locateParent path with
  | error e =>
      rw [hparent] at h
      cases h
  | ok parent =>
      obtain ⟨place, _ | name⟩ := parent
      · rw [hparent] at h
        cases h
      · rw [hparent] at h
        dsimp only [bind, Except.bind] at h
        split at h
        · cases h
        · rename_i hmissing
          split_ifs at h with hdir
          obtain rfl := Except.ok.inj h
          cases hplace : fs.root.find? place with
          | none => simp [hplace] at hdir
          | some t =>
              cases t with
              | file contents => simp [hplace, FileTree.isDir] at hdir
              | dir es =>
                  exact put_keeps hplace (lookup_of_descend_notFound hplace hmissing).2.2.2 _
        · cases h

lemma ensureDir_keeps (h : fs.ensureDir path = .ok fs') : fs.Keeps fs' := by
  rw [ensureDir] at h
  split at h
  · rename_i hmade
    exact Except.ok.inj h ▸ makeDir_keeps hmade
  · split_ifs at h
    exact Except.ok.inj h ▸ .refl fs

lemma makeDirsFrom_keeps {absolute : Bool} {reversed : List String}
    (h : fs.makeDirsFrom absolute reversed = .ok fs') : fs.Keeps fs' := by
  induction reversed generalizing fs' with
  | nil => exact Except.ok.inj h ▸ .refl fs
  | cons name parents ih =>
      rw [makeDirsFrom] at h
      split at h
      · rename_i hmade
        exact Except.ok.inj h ▸ makeDir_keeps hmade
      · cases hparents : fs.makeDirsFrom absolute parents with
        | error e =>
            rw [hparents] at h
            cases h
        | ok fs₁ =>
            rw [hparents] at h
            exact (ih hparents).trans (ensureDir_keeps h)
      · split_ifs at h
        exact Except.ok.inj h ▸ .refl fs

/-- **Making directories changes nothing but directories.** -/
lemma makeDirs_keeps (h : fs.makeDirs path = .ok fs') : fs.Keeps fs' := by
  rw [makeDirs] at h
  split_ifs at h
  exact makeDirsFrom_keeps h

end Directories

/-! ## Writing a file -/

section Writing

variable {fs fs' : FileSystem} {path : String} {contents : Bytes}

/-- Where a file can be written: under a name in a directory, where no directory is. -/
structure WritesAt (fs : FileSystem) (path : String) (place : List String) (name : String) :
    Prop where
  checked : checked path = .ok ()
  parent : (Path.names path).dropLast.foldlM fs.descend (fs.start path) = .ok place
  last : (Path.names path).getLast? = some name
  slash : Path.endsWithSlash path = false
  dir : ∃ es, fs.root.find? place = some (.dir es)
  proper : name ≠ "." ∧ name ≠ ".." ∧ ¬ nameLimit < name.utf8ByteSize
  free : ∀ es, fs.root.find? (place ++ [name]) ≠ some (.dir es)

/-- Something is written where a file is already, or under a new name. -/
lemma exists_of_write (h : fs.write path contents = .ok fs') : ∃ place name,
    fs.WritesAt path place name ∧ fs' = fs.put (place ++ [name]) (.file contents) := by
  rw [write] at h
  cases hparent : fs.locateParent path with
  | error e =>
      rw [hparent] at h
      cases h
  | ok parent =>
      obtain ⟨place, name?⟩ := parent
      obtain ⟨hchecked, hfold, hlast⟩ := locateParent_eq_ok_iff.mp hparent
      rw [hparent] at h
      dsimp only [bind, Except.bind] at h
      cases name? with
      | none => cases h
      | some name =>
          dsimp only at h
          split at h
          · rename_i target hstep
            split_ifs at h with hslash
            split at h
            · rename_i old hold
              obtain rfl := Except.ok.inj h
              obtain ⟨es, hplace, ⟨-, rfl⟩ | ⟨-, rfl⟩ | ⟨hdot, hup, hshort, -, rfl⟩⟩ :=
                descend_eq_ok_iff.mp hstep
              · simp [hplace] at hold
              · obtain ⟨es', hup⟩ := FileTree.exists_find?_dropLast hplace
                simp [hup] at hold
              · exact ⟨place, name, ⟨hchecked, hfold, hlast, by simpa using hslash, ⟨es, hplace⟩,
                  ⟨hdot, hup, hshort⟩, by simp [hold]⟩, rfl⟩
            · cases h
          · rename_i hmissing
            split_ifs at h with hslash hdir
            obtain rfl := Except.ok.inj h
            obtain ⟨es, hplace⟩ : ∃ es, fs.root.find? place = some (.dir es) := by
              cases hplace : fs.root.find? place with
              | none => simp [hplace] at hdir
              | some t =>
                  cases t with
                  | file contents => simp [hplace, FileTree.isDir] at hdir
                  | dir es => exact ⟨es, rfl⟩
            obtain ⟨hdot, hup, hshort, hnone⟩ := lookup_of_descend_notFound hplace hmissing
            have habsent := FileTree.find?_of_lookup_eq_none hplace hnone
            exact ⟨place, name, ⟨hchecked, hfold, hlast, by simpa using hslash, ⟨es, hplace⟩,
              ⟨hdot, hup, hshort⟩, by simp [habsent]⟩, rfl⟩
          · cases h

lemma WritesAt.write_eq {place : List String} {name : String} (h : fs.WritesAt path place name)
    (contents : Bytes) :
    fs.write path contents = .ok (fs.put (place ++ [name]) (.file contents)) := by
  obtain ⟨hchecked, hfold, hlast, hslash, ⟨es, hplace⟩, ⟨hdot, hup, hshort⟩, hfree⟩ := h
  rw [write, locateParent_eq_ok_iff.mpr ⟨hchecked, hfold, hlast⟩]
  dsimp only [bind, Except.bind]
  cases hlookup : es.lookup name with
  | none =>
      have hstep : fs.descend place name = .error .notFound := by
        rw [descend, hplace]
        dsimp only
        rw [if_neg hdot, if_neg hup, if_neg hshort, hlookup]
        rfl
      simp [hstep, hslash, hplace, FileTree.isDir, pure, Except.pure]
  | some t =>
      have hstep : fs.descend place name = .ok (place ++ [name]) :=
        descend_eq_ok_iff.mpr ⟨es, hplace, .inr (.inr ⟨hdot, hup, hshort, by simp [hlookup], rfl⟩)⟩
      have hfind : fs.root.find? (place ++ [name]) = some t := by
        rw [FileTree.find?_append_singleton, hplace, Option.bind_some, FileTree.find?_cons_dir,
          hlookup]
        rfl
      cases t with
      | dir es' => exact absurd hfind (hfree es')
      | file old => simp [hstep, hslash, hfind, pure, Except.pure]

/-- **What writing does**, and when it succeeds: that does not depend on the contents. -/
lemma write_eq_ok_iff : fs.write path contents = .ok fs'
    ↔ ∃ place name, fs.WritesAt path place name
      ∧ fs' = fs.put (place ++ [name]) (.file contents) := by
  constructor
  · exact exists_of_write
  · rintro ⟨place, name, hwrites, rfl⟩
    exact hwrites.write_eq contents

/-- Directories stay where a file is written. -/
lemma WritesAt.keepsDirs {place : List String} {name : String} (contents : Bytes)
    (h : fs.WritesAt path place name) :
    fs.KeepsDirs (fs.put (place ++ [name]) (.file contents)) where
  current := rfl
  dirs {q es} hq := by
    obtain ⟨_, hplace⟩ := h.dir
    have hne : q ≠ place ++ [name] := by
      rintro rfl
      exact h.free es hq
    obtain ⟨_, hq', ⟨⟩ | hnames⟩ :=
      FileTree.find?_put_other (.file contents) hplace h.free hq hne
    exact ⟨_, hq', hnames⟩

/-- **What has been written is read.** -/
lemma read_of_write (h : fs.write path contents = .ok fs') : fs'.read path = .ok contents := by
  obtain ⟨place, name, hwrites, rfl⟩ := write_eq_ok_iff.mp h
  obtain ⟨es, hplace⟩ := hwrites.dir
  have hkeeps := hwrites.keepsDirs contents
  have hfile := FileTree.find?_put_self hplace name (.file contents)
  refine read_eq_ok_iff.mpr ⟨place ++ [name], locate_eq_ok_iff.mpr ⟨hwrites.checked, ?_, ?_⟩, hfile⟩
  · have hnames : Path.names path = (Path.names path).dropLast ++ [name] := by
      obtain ⟨front, hfront⟩ := List.getLast?_eq_some_iff.mp hwrites.last
      rw [hfront, List.dropLast_concat]
    obtain ⟨es', hplace', -⟩ := hkeeps.dirs hplace
    have hstep : (fs.put (place ++ [name]) (.file contents)).descend place name
        = .ok (place ++ [name]) := by
      obtain ⟨hdot, hup, hshort⟩ := hwrites.proper
      refine descend_eq_ok_iff.mpr ⟨es', hplace', .inr (.inr ⟨hdot, hup, hshort, ?_, rfl⟩)⟩
      have hthere := hfile
      change (fs.put (place ++ [name]) (.file contents)).root.find? _ = _ at hthere
      rw [FileTree.find?_append_singleton, hplace', Option.bind_some, FileTree.find?_cons_dir]
        at hthere
      obtain ⟨_, hlookup, -⟩ := Option.bind_eq_some_iff.mp hthere
      simp [hlookup]
    rw [hnames, List.foldlM_append, hkeeps.start_eq, hkeeps.descendAll hwrites.parent]
    exact (bind_pure _).trans hstep
  · exact fun _ _ => hwrites.slash

end Writing

end FileSystem

end AgentLaunch
