import AgentLaunch.Proofs.Text.Blank
import AgentLaunch.WorkDir
import Mathlib.Data.List.Basic
import Mathlib.Tactic.Common

/-!
# Paths in working directories

A working directory ends in a separator and the names of the files in it have none, so a path can
be taken apart at its last separator in one way only.  What is configured may be padded and may lack
the separator; how it was written cannot be told from the directory that it stands for.

* **`join_inj`** — files in different directories, or with different names, have different paths.
* `Normal` — what every directory looks like that can be configured: `normal_resolve`.
* `Normal.resolve_eq` — a directory that looks like that stands for itself.
* **`resolve_canonical`** — what a configured directory stands for.

A configured directory is trimmed first, and gets a separator if it has none at its end.  After that
it is neither empty nor padded and ends in a separator, and trimming and completing such a text
change nothing; so a directory can be configured by the path that it stands for.  `Completes` keeps
the two cases apart, with and without a separator, because it can be a slash as well as a backslash.

For paths of files the argument is about the last separator.  If a path is written in two ways as a
directory with a name, then both directories are fronts of it, and as a name has no separator
neither of them can be the longer one.
-/

namespace AgentLaunch.WorkDir

/-- A character that divides the parts of a path. -/
def isSeparator (c : Char) : Bool := c == '\\' || c == '/'

/-- A directory whose path ends in a separator. -/
def EndsInSeparator (dir : WorkDir) : Prop :=
  ∃ front c, dir.path.toList = front ++ [c] ∧ isSeparator c = true

/-- A name without separators. -/
def Plain (name : String) : Prop := ∀ c ∈ name.toList, isSeparator c = false

lemma plain_initScriptFile : Plain initScriptFile := by
  simp [Plain, initScriptFile, isSeparator]

lemma plain_initMarkerFile : Plain initMarkerFile := by
  simp [Plain, initMarkerFile, isSeparator]

lemma plain_agentFile : Plain agentFile := by
  simp [Plain, agentFile, isSeparator]

/-! ## Paths of files -/

/-- Of two ways to write a path, the directory of the first is not the longer one. -/
lemma eq_nil_of_join {front rest name name' : List Char} {c : Char} (hc : isSeparator c = true)
    (hname : ∀ c ∈ name, isSeparator c = false) (hdir : ∃ longer, front ++ rest = longer ++ [c])
    (hrest : name = rest ++ name') : rest = [] := by
  obtain ⟨longer, hlonger⟩ := hdir
  rcases List.eq_nil_or_concat rest with rfl | ⟨init, last, rfl⟩
  · rfl
  · rw [List.concat_eq_append, ← List.append_assoc] at hlonger
    obtain ⟨-, hlast⟩ := List.append_inj' hlonger rfl
    obtain rfl : last = c := by simpa using hlast
    have hplain := hname last (by simp [hrest])
    rw [hplain] at hc
    simp at hc

/-- Files with different names in one directory have different paths. -/
lemma eq_of_join_eq {dir : WorkDir} {name name' : String} (h : dir.join name = dir.join name') :
    name = name' := by
  have hchars := congrArg String.toList h
  simpa [join, String.toList_inj] using hchars

/-- **Paths do not collide.** -/
theorem join_inj {dir dir' : WorkDir} {name name' : String} (hdir : dir.EndsInSeparator)
    (hdir' : dir'.EndsInSeparator) (hname : Plain name) (hname' : Plain name')
    (h : dir.join name = dir'.join name') : dir = dir' ∧ name = name' := by
  obtain ⟨front, c, hfront, hc⟩ := hdir
  obtain ⟨front', c', hfront', hc'⟩ := hdir'
  have hchars : dir.path.toList ++ name.toList = dir'.path.toList ++ name'.toList := by
    simpa [join] using congrArg String.toList h
  have hsame : dir.path.toList = dir'.path.toList ∧ name.toList = name'.toList := by
    rcases List.append_eq_append_iff.mp hchars with ⟨rest, hdirs, hnames⟩ | ⟨rest, hdirs, hnames⟩
    · obtain rfl := eq_nil_of_join hc' hname ⟨front', hdirs ▸ hfront'⟩ hnames
      exact ⟨by simpa using hdirs.symm, by simpa using hnames⟩
    · obtain rfl := eq_nil_of_join hc hname' ⟨front, hdirs ▸ hfront⟩ hnames
      exact ⟨by simpa using hdirs, by simpa using hnames.symm⟩
  obtain ⟨path⟩ := dir
  obtain ⟨path'⟩ := dir'
  exact ⟨congrArg WorkDir.mk (String.toList_inj.mp hsame.1), String.toList_inj.mp hsame.2⟩

/-! ## What a configured directory stands for -/

section Resolution

variable {text : String}

lemma endsInSeparator_iff {dir : WorkDir} :
    dir.EndsInSeparator ↔ ∃ c ∈ dir.path.toList.getLast?, isSeparator c = true := by
  constructor
  · rintro ⟨front, c, hfront, hc⟩
    rw [hfront, List.getLast?_concat]
    exact ⟨c, rfl, hc⟩
  · rintro ⟨c, hlast, hc⟩
    obtain ⟨front, hfront⟩ := List.getLast?_eq_some_iff.mp hlast
    exact ⟨front, c, hfront, hc⟩

lemma ensureTrailingSeparator_of_ends (h : EndsInSeparator ⟨text⟩) :
    ensureTrailingSeparator text = text := by
  obtain ⟨c, hlast, hc⟩ := endsInSeparator_iff.mp h
  simp only [isSeparator, Bool.or_eq_true, beq_iff_eq] at hc
  unfold ensureTrailingSeparator
  rw [Option.mem_def.mp hlast]
  rcases hc with rfl | rfl <;> rfl

lemma ensureTrailingSeparator_of_not_ends (h : ¬EndsInSeparator ⟨text⟩) :
    ensureTrailingSeparator text = text ++ "\\" := by
  rw [endsInSeparator_iff] at h
  unfold ensureTrailingSeparator
  split
  case h_1 hlast => exact absurd ⟨'\\', hlast, rfl⟩ h
  case h_2 hlast => exact absurd ⟨'/', hlast, rfl⟩ h
  case h_3 => rfl

lemma ensureTrailingSeparator_endsInSeparator (text : String) :
    EndsInSeparator ⟨ensureTrailingSeparator text⟩ := by
  by_cases h : EndsInSeparator ⟨text⟩
  · rwa [ensureTrailingSeparator_of_ends h]
  · rw [ensureTrailingSeparator_of_not_ends h]
    exact ⟨text.toList, '\\', String.toList_append, rfl⟩

lemma resolve_eq (configured : String) : resolve (some configured)
    = if Text.trim configured = "" then standard
      else ⟨ensureTrailingSeparator (Text.trim configured)⟩ := by
  unfold resolve
  rw [Option.bind_some, Text.trimmed?_eq]
  by_cases hblank : Text.trim configured = ""
  · rw [if_pos hblank, if_pos hblank]
  · rw [if_neg hblank, if_neg hblank]

/-- **A directory in its normal form**, as every attempt has it. -/
structure Normal (dir : WorkDir) : Prop where
  unpadded : Text.Unpadded dir.path
  ends : dir.EndsInSeparator

lemma isBlank_of_isSeparator {c : Char} (hc : isSeparator c = true) : Text.isBlank c = false := by
  simp only [isSeparator, Bool.or_eq_true, beq_iff_eq] at hc
  rcases hc with rfl | rfl <;> rfl

/-- A separator in the end, whether it was there or is added, pads nothing. -/
lemma normal_ensureTrailingSeparator (hne : text ≠ "") (h : Text.Unpadded text) :
    Normal ⟨ensureTrailingSeparator text⟩ := by
  have hends := ensureTrailingSeparator_endsInSeparator text
  refine ⟨⟨?_, ?_⟩, hends⟩
  · by_cases htext : EndsInSeparator ⟨text⟩
    · rw [ensureTrailingSeparator_of_ends htext]
      exact h.1
    · have hchars : text.toList ≠ [] := by simpa using hne
      rw [ensureTrailingSeparator_of_not_ends htext, String.toList_append,
        List.head?_append_of_ne_nil _ hchars]
      exact h.1
  · obtain ⟨c, hlast, hc⟩ := endsInSeparator_iff.mp hends
    rw [Option.mem_def.mp hlast]
    rintro _ ⟨⟩
    exact isBlank_of_isSeparator hc

lemma normal_standard : Normal standard where
  unpadded := by
    have htrimmed : Text.trim standard.path = standard.path := by decide
    rw [← htrimmed]
    exact Text.unpadded_trim standard.path
  ends := ⟨"C:\\Windows\\Temp".toList, '\\', by decide, rfl⟩

lemma normal_resolve (configured : Option String) : Normal (resolve configured) := by
  cases configured with
  | none => exact normal_standard
  | some configured =>
      rw [resolve_eq]
      split
      · exact normal_standard
      · next hne => exact normal_ensureTrailingSeparator hne (Text.unpadded_trim configured)

lemma resolve_endsInSeparator (configured : Option String) :
    EndsInSeparator (resolve configured) :=
  (normal_resolve configured).ends

lemma EndsInSeparator.path_ne {dir : WorkDir} (h : dir.EndsInSeparator) : dir.path ≠ "" := by
  obtain ⟨front, c, hfront, -⟩ := h
  intro hempty
  simp [hempty] at hfront

/-- **A directory in its normal form stands for itself.** -/
lemma Normal.resolve_eq {dir : WorkDir} (h : Normal dir) : resolve (some dir.path) = dir := by
  rw [WorkDir.resolve_eq, Text.trim_of_unpadded h.unpadded, if_neg h.ends.path_ne,
    ensureTrailingSeparator_of_ends h.ends]

/-- How a text without padding is completed to a directory. -/
inductive Completes : String → WorkDir → Prop where
  /-- The standard directory takes the place of a text that is empty. -/
  | standard : Completes "" standard
  /-- The separator that is given stays as it is. -/
  | given {text : String} (h : EndsInSeparator ⟨text⟩) : Completes text ⟨text⟩
  /-- If none is given, one backslash is added. -/
  | added {text : String} (hne : text ≠ "") (h : ¬EndsInSeparator ⟨text⟩) :
      Completes text ⟨text ++ "\\"⟩

lemma completes_resolve (configured : String) :
    Completes (Text.trim configured) (resolve (some configured)) := by
  rw [resolve_eq]
  by_cases hblank : Text.trim configured = ""
  · rw [if_pos hblank, hblank]
    exact .standard
  · rw [if_neg hblank]
    by_cases hends : EndsInSeparator ⟨Text.trim configured⟩
    · rw [ensureTrailingSeparator_of_ends hends]
      exact .given hends
    · rw [ensureTrailingSeparator_of_not_ends hends]
      exact .added hblank hends

/-- **A configured directory stands for one directory**, however it is written. -/
structure StandsFor (configured : String) (dir : WorkDir) : Prop where
  nonempty : dir.path ≠ ""
  normal : Normal dir
  /-- Nothing but the padding and the end differs from what is configured. -/
  completes : Completes (Text.trim configured) dir
  /-- The directory stands for itself. -/
  stable : resolve (some dir.path) = dir
  padded : ∀ front back, Text.Blank front → Text.Blank back →
    resolve (some (front ++ configured ++ back)) = dir
  /-- The backslash at the end may be left out. -/
  backslash : configured ≠ "" → Text.Unpadded configured → ¬EndsInSeparator ⟨configured⟩ →
    resolve (some (configured ++ "\\")) = dir

/-- The names of the files that an attempt puts into its directory. -/
def fileNames : List String := [initScriptFile, initMarkerFile, agentFile]

/-- **No path leads to files of two directories.** -/
structure Apart (dir dir' : WorkDir) : Prop where
  join_eq : ∀ name name', Plain name → Plain name' → dir.join name = dir'.join name' →
    dir = dir' ∧ name = name'
  join_ne : dir ≠ dir' →
    ∀ name ∈ fileNames, ∀ name' ∈ fileNames, dir.join name ≠ dir'.join name'

lemma plain_of_mem_fileNames {name : String} (h : name ∈ fileNames) : Plain name := by
  simp only [fileNames, List.mem_cons, List.not_mem_nil, or_false] at h
  rcases h with rfl | rfl | rfl
  · exact plain_initScriptFile
  · exact plain_initMarkerFile
  · exact plain_agentFile

lemma apart_of_ends {dir dir' : WorkDir} (hdir : dir.EndsInSeparator)
    (hdir' : dir'.EndsInSeparator) : Apart dir dir' where
  join_eq := fun _ _ hname hname' h => join_inj hdir hdir' hname hname' h
  join_ne := by
    intro hne name hname name' hname' h
    have hplain := plain_of_mem_fileNames hname
    have hplain' := plain_of_mem_fileNames hname'
    exact hne (join_inj hdir hdir' hplain hplain' h).1

lemma resolve_backslash (hne : text ≠ "") (h : Text.Unpadded text)
    (hends : ¬EndsInSeparator ⟨text⟩) : resolve (some (text ++ "\\")) = resolve (some text) := by
  have hnormal := normal_ensureTrailingSeparator hne h
  have hgiven : resolve (some text) = ⟨ensureTrailingSeparator text⟩ := by
    rw [resolve_eq, Text.trim_of_unpadded h, if_neg hne]
  rw [hgiven, ← hnormal.resolve_eq, ensureTrailingSeparator_of_not_ends hends]

/-- **What a configured directory stands for**, and that files of different ones do not meet. -/
theorem resolve_canonical :
    (∀ configured, StandsFor configured (resolve (some configured)))
      ∧ ∀ configured configured', Apart (resolve configured) (resolve configured') := by
  refine ⟨fun configured => ?_, fun configured configured' => ?_⟩
  · have hnormal := normal_resolve (some configured)
    exact
      { nonempty := hnormal.ends.path_ne
        normal := hnormal
        completes := completes_resolve configured
        stable := hnormal.resolve_eq
        padded := by
          intro front back hfront hback
          rw [resolve_eq, resolve_eq, Text.trim_append hfront hback]
        backslash := resolve_backslash }
  · exact apart_of_ends (resolve_endsInSeparator configured) (resolve_endsInSeparator configured')

-- An ideographic space and a tab around a path with slashes.
example : resolve (some "\u3000D:/agent\t") = resolve (some "D:/agent\\") := by decide

end Resolution

end AgentLaunch.WorkDir
