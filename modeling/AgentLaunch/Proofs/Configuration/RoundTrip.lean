import AgentLaunch.Proofs.Configuration.Text
import AgentLaunch.Proofs.Files.Writing
import AgentLaunch.Proofs.Text.Utf8

/-!
# Saving and loading

A configuration that is saved is a text in a file, and loading reads it back, makes its paths
complete and asks whether anything is missing.  Completing the paths twice does no more than doing
it once, unless the home directory itself looks like a path to be completed.

* `Path.NamesHome`, `Path.expandTilde_expandTilde` — home directories, and paths in them.
* `Configuration.lacks` — what may be missing in a configuration.
* `FileSystem.Writable` — the paths under which something can be saved.
* `load_of_save` — what loading makes of a file that has been saved.
* **`configurations_roundTrip`** — what saving and loading keep.

The theorem has three sources, one module each.  The text of a configuration is read back as the
configuration (`Configuration.Text`), a file that has been written is read (`Files.Writing`), and
what remains is done here: completing the paths, and asking what is missing.  The last two commute
with each other, since only an empty path is completed to an empty one.

Saving fails in one way that is not about files.  Seconds may have 64 bits and an integer of TOML
has 63, so a configuration can be too big to be written, and then all files stay as they are.  What
has been loaded was once written in TOML, so it is never too big, and can be saved again without a
condition on it.
-/

namespace AgentLaunch

/-! ## Paths in the home directory -/

namespace Path

/-- A home directory, if there is one: it has a name, which is no path in a home directory itself.
An environment whose home directory has an empty name says that there is none. -/
def NamesHome (home : Option String) : Prop :=
  ∀ dir, home = some dir → dir ≠ "" ∧ ∀ rest, dir.toList ≠ '~' :: '/' :: rest

section Tilde

variable {home : Option String} {dir path : String}

lemma expandTilde_of_ne (h : ∀ rest, path.toList ≠ '~' :: '/' :: rest) :
    expandTilde home path = path := by
  unfold expandTilde
  split
  · rename_i heq
    exact absurd heq (h _)
  · rfl

lemma expandTilde_some {rest : List Char} (h : path.toList = '~' :: '/' :: rest) :
    expandTilde (some dir) path = join dir (String.ofList rest) := by
  unfold expandTilde
  split
  · rename_i rest' dir' hrest hdir
    obtain rfl := Option.some.inj hdir
    obtain rfl := (List.cons.inj (List.cons.inj (hrest.symm.trans h)).2).2
    rfl
  · rename_i hother
    exact absurd rfl (hother rest dir h)

lemma expandTilde_none (path : String) : expandTilde none path = path := by
  unfold expandTilde
  split
  · rename_i hnone
    cases hnone
  · rfl

/-- A path that has been completed is complete, or is completed to itself. -/
lemma expandTilde_join (hhome : NamesHome (some dir)) (rest : String) :
    expandTilde (some dir) (join dir rest) = join dir rest := by
  obtain ⟨hnonempty, htilde⟩ := hhome dir rfl
  obtain ⟨c, more, hdir⟩ : ∃ c more, dir.toList = c :: more :=
    List.exists_cons_of_ne_nil fun h => hnonempty (String.toList_inj.mp h)
  by_cases habsolute : isAbsolute rest = true
  · rw [join, if_pos habsolute]
    refine expandTilde_of_ne fun tail htail => ?_
    simp [isAbsolute, htail] at habsolute
  · by_cases hslash : (dir.isEmpty || endsWithSlash dir) = true
    · rw [join, if_neg habsolute, if_pos hslash]
      refine expandTilde_of_ne fun tail htail => ?_
      rw [String.toList_append, hdir] at htail
      cases more with
      | nil =>
          obtain ⟨rfl, -⟩ := List.cons.inj htail
          simp [endsWithSlash, hdir, hnonempty] at hslash
      | cons d more =>
          obtain ⟨rfl, hnext⟩ := List.cons.inj htail
          obtain ⟨rfl, -⟩ := List.cons.inj hnext
          exact htilde more hdir
    · have hjoin : join dir rest = dir ++ "/" ++ rest := by
        rw [join, if_neg habsolute, if_neg hslash]
      have hchars : (dir ++ "/" ++ rest).toList = c :: (more ++ '/' :: rest.toList) := by
        simp [hdir]
      by_cases hhomely : ∃ tail, (dir ++ "/" ++ rest).toList = '~' :: '/' :: tail
      · -- Only a home directory that is called by a tilde itself comes to this.
        obtain ⟨tail, htail⟩ := hhomely
        rw [hchars] at htail
        obtain ⟨rfl, hnext⟩ := List.cons.inj htail
        cases more with
        | nil => rw [hjoin, expandTilde_some hchars, String.ofList_toList, hjoin]
        | cons d more =>
            obtain ⟨rfl, -⟩ := List.cons.inj hnext
            exact absurd hdir (htilde more)
      · rw [hjoin]
        exact expandTilde_of_ne fun tail htail => hhomely ⟨tail, htail⟩

/-- **Completing a path twice does no more than doing it once.** -/
lemma expandTilde_expandTilde (hhome : NamesHome home) (path : String) :
    expandTilde home (expandTilde home path) = expandTilde home path := by
  cases home with
  | none =>
      rw [expandTilde_none, expandTilde_none]
  | some dir =>
      by_cases h : ∃ rest, path.toList = '~' :: '/' :: rest
      · obtain ⟨rest, hrest⟩ := h
        rw [expandTilde_some hrest]
        exact expandTilde_join hhome _
      · have hne : ∀ rest, path.toList ≠ '~' :: '/' :: rest := fun rest hrest => h ⟨rest, hrest⟩
        rw [expandTilde_of_ne hne, expandTilde_of_ne hne]

/-- Only an empty path is completed to one. -/
lemma expandTilde_eq_empty_iff (hhome : NamesHome home) :
    expandTilde home path = "" ↔ path = "" := by
  cases home with
  | none => rw [expandTilde_none]
  | some dir =>
      obtain ⟨hnonempty, -⟩ := hhome dir rfl
      by_cases h : ∃ rest, path.toList = '~' :: '/' :: rest
      · obtain ⟨rest, hrest⟩ := h
        have hpath : path ≠ "" := by
          rintro rfl
          cases hrest
        have hjoin : join dir (String.ofList rest) ≠ "" := by
          rw [join]
          split_ifs with habsolute
          · rintro hempty
            simp [isAbsolute, hempty] at habsolute
          · simp [hnonempty]
          · simp
        rw [expandTilde_some hrest]
        exact iff_of_false hjoin hpath
      · rw [expandTilde_of_ne fun rest hrest => h ⟨rest, hrest⟩]

end Tilde

end Path

namespace Configuration

/-! ## What is missing -/

/-- Whether a configuration lacks a field: the agent's file always has to be named, the key is
needed for derived passwords only, and the password only if it is supplied. -/
def lacks (c : Configuration) : MissingField → Bool
  | .payloadPath => c.agent.payloadPath == ""
  | .privateKey => c.launch.security == .derivedPassword && c.aws.privateKey == none
  | .adminPassword => c.launch.security == .suppliedPassword && c.launch.adminPassword == none

/-- All fields that may be missing, in the order in which they are listed. -/
def requirable : List MissingField := [.payloadPath, .privateKey, .adminPassword]

section Missing

variable {c : Configuration} {home : Option String}

lemma missingFields_eq_filter (c : Configuration) :
    c.missingFields = requirable.filter c.lacks := by
  have hpath : c.lacks .payloadPath = c.agent.payloadPath.isEmpty := by
    rw [lacks, Bool.eq_iff_iff]
    simp
  cases hsecurity : c.launch.security with
  | derivedPassword =>
      have hkey : c.lacks .privateKey = c.aws.privateKey.isNone := by
        cases h : c.aws.privateKey <;> simp [lacks, hsecurity, h]
      have hpassword : c.lacks .adminPassword = false := by simp [lacks, hsecurity]
      simp only [missingFields, hsecurity, requirable, List.filter_cons, hpath, hkey, hpassword]
      cases c.agent.payloadPath.isEmpty <;> cases c.aws.privateKey.isNone <;> rfl
  | suppliedPassword =>
      have hkey : c.lacks .privateKey = false := by simp [lacks, hsecurity]
      have hpassword : c.lacks .adminPassword = c.launch.adminPassword.isNone := by
        cases h : c.launch.adminPassword <;> simp [lacks, hsecurity, h]
      simp only [missingFields, hsecurity, requirable, List.filter_cons, hpath, hkey, hpassword]
      cases c.agent.payloadPath.isEmpty <;> cases c.launch.adminPassword.isNone <;> rfl

lemma mem_missingFields_iff {field : MissingField} :
    field ∈ c.missingFields ↔ c.lacks field = true := by
  have hmem : field ∈ requirable := by cases field <;> decide
  rw [missingFields_eq_filter, List.mem_filter, and_iff_right hmem]

lemma missingFields_eq_nil_iff : c.missingFields = [] ↔ ∀ field, c.lacks field = false := by
  simp only [List.eq_nil_iff_forall_not_mem, mem_missingFields_iff, Bool.not_eq_true]

/-- Completing the paths makes nothing missing, and nothing given. -/
lemma lacks_expandPaths (hhome : Path.NamesHome home) : (c.expandPaths home).lacks = c.lacks := by
  funext field
  cases field with
  | payloadPath =>
      rw [lacks, lacks, Bool.eq_iff_iff, beq_iff_eq, beq_iff_eq]
      exact Path.expandTilde_eq_empty_iff hhome
  | privateKey => cases hkey : c.aws.privateKey <;> simp [lacks, expandPaths, hkey]
  | adminPassword => rfl

lemma expandPaths_expandPaths (hhome : Path.NamesHome home) (c : Configuration) :
    (c.expandPaths home).expandPaths home = c.expandPaths home := by
  have hkey : (c.aws.privateKey.map (Path.expandTilde home)).map (Path.expandTilde home)
      = c.aws.privateKey.map (Path.expandTilde home) := by
    rw [Option.map_map]
    exact congrArg (Option.map · c.aws.privateKey)
      (funext fun path => Path.expandTilde_expandTilde hhome path)
  rw [expandPaths, expandPaths]
  simp only [hkey, Path.expandTilde_expandTilde hhome]

end Missing

end Configuration

/-! ## Saving -/

namespace FileSystem

/-- The files in which something can be written under a path: the directory it lies in is made. -/
def prepared (fs : FileSystem) (path : String) : Except FileError FileSystem :=
  match Path.parent? path with
  | some dir => fs.makeDirs dir
  | none => .ok fs

/-- A path under which something can be saved: its directory can be made, and a file written into
it. -/
def Writable (fs : FileSystem) (path : String) : Prop :=
  ∃ fs₁ fs₂, fs.prepared path = .ok fs₁ ∧ fs₁.write path [] = .ok fs₂

lemma prepared_keeps {fs fs₁ : FileSystem} {path : String} (h : fs.prepared path = .ok fs₁) :
    fs.Keeps fs₁ := by
  rw [prepared] at h
  split at h
  · exact makeDirs_keeps h
  · exact Except.ok.inj h ▸ .refl fs

end FileSystem

namespace Configuration

section Saving

variable {c parsed : Configuration} {fs fs₁ fs₂ : FileSystem} {path text : String}

/-- Saving prepares the directory, and writes the text if there is one. -/
lemma save_eq : c.save fs path = match fs.prepared path with
    | .error e => (some (.noDirectory e), fs)
    | .ok fs =>
      match c.toText? with
      | none => (some .unprintable, fs)
      | some text =>
        match fs.write path (Utf8.encode text) with
        | .error e => (some (.unwritable e), fs)
        | .ok fs => (none, fs) := rfl

lemma exists_of_save_eq_none (h : (c.save fs path).1 = none) : ∃ fs₁ text fs₂,
    fs.prepared path = .ok fs₁ ∧ c.toText? = some text
      ∧ fs₁.write path (Utf8.encode text) = .ok fs₂ ∧ c.save fs path = (none, fs₂) := by
  cases hprepared : fs.prepared path with
  | error e =>
      have hsave : c.save fs path = (some (.noDirectory e), fs) := by
        rw [save_eq, hprepared]
      rw [hsave] at h
      cases h
  | ok fs₁ =>
      rw [save_eq, hprepared] at h ⊢
      cases htext : c.toText? with
      | none =>
          rw [htext] at h
          cases h
      | some text =>
          cases hwrite : fs₁.write path (Utf8.encode text) with
          | error e => simp [htext, hwrite] at h
          | ok fs₂ => exact ⟨fs₁, text, fs₂, rfl, rfl, hwrite, by simp [hwrite]⟩

/-- **What has been saved stands in its file.** -/
lemma readText_of_save (hc : c.Fits) (h : (c.save fs path).1 = none) :
    ∃ text, (c.save fs path).2.readText path = .ok text ∧ ofText? text = some c := by
  obtain ⟨fs₁, text, fs₂, -, htext, hwrite, hsave⟩ := exists_of_save_eq_none h
  have hread : fs₂.readText path = .ok text := by
    rw [FileSystem.readText, FileSystem.read_of_write hwrite]
    simp [bind, Except.bind, Utf8.decode?_encode, pure, Except.pure]
  exact ⟨text, hsave ▸ hread, ofText?_toText? hc htext⟩

/-- Loading is reading the text, completing the paths and looking for what is missing. -/
lemma load_of_readText (home : Option String) (h : fs.readText path = .ok text) :
    load fs home path = match ofText? text with
      | none => .error (.unparsable path)
      | some parsed =>
        match (parsed.expandPaths home).missingFields with
        | [] => .ok (parsed.expandPaths home)
        | fields => .error (.incomplete path fields) := by
  cases hparsed : ofText? text with
  | none => simp only [load, h, hparsed]
  | some parsed =>
      cases hmissing : (parsed.expandPaths home).missingFields with
      | nil => simp only [load, h, hparsed, hmissing]
      | cons field fields => simp only [load, h, hparsed, hmissing]

/-- **What loading makes of a file that has been saved.** -/
lemma load_of_save (hc : c.Fits) (h : (c.save fs path).1 = none) (home : Option String) :
    load (c.save fs path).2 home path = match (c.expandPaths home).missingFields with
      | [] => .ok (c.expandPaths home)
      | fields => .error (.incomplete path fields) := by
  obtain ⟨text, hread, htext⟩ := readText_of_save hc h
  rw [load_of_readText home hread, htext]

/-- Only complete configurations are loaded, with their paths completed. -/
lemma exists_of_load {home : Option String} (h : load fs home path = .ok c) :
    ∃ text parsed, fs.readText path = .ok text ∧ ofText? text = some parsed
      ∧ c = parsed.expandPaths home ∧ c.missingFields = [] := by
  cases hread : fs.readText path with
  | error e =>
      rw [load, hread] at h
      cases h
  | ok text =>
      rw [load_of_readText home hread] at h
      cases hparsed : ofText? text with
      | none => simp [hparsed] at h
      | some parsed =>
          simp only [hparsed] at h
          cases hmissing : (parsed.expandPaths home).missingFields with
          | nil =>
              rw [hmissing] at h
              obtain rfl := Except.ok.inj h
              exact ⟨text, parsed, rfl, hparsed, rfl, hmissing⟩
          | cons field fields =>
              rw [hmissing] at h
              cases h

lemma save_eq_none_iff (hc : c.Fits) (hwritable : fs.Writable path) :
    (c.save fs path).1 = none ↔ c.Printable := by
  obtain ⟨fs₁, fs₂, hprepared, hwrite⟩ := hwritable
  obtain ⟨place, name, hwrites, -⟩ := FileSystem.write_eq_ok_iff.mp hwrite
  rw [← isSome_toText?_iff hc, save_eq, hprepared]
  cases htext : c.toText? with
  | none => simp
  | some text =>
      simp [hwrites.write_eq (Utf8.encode text)]

lemma save_of_not_printable (hc : c.Fits) (hwritable : fs.Writable path) (hbig : ¬ c.Printable) :
    ∃ fs₁, c.save fs path = (some .unprintable, fs₁) ∧ fs.Keeps fs₁ := by
  obtain ⟨fs₁, fs₂, hprepared, -⟩ := hwritable
  have htext : c.toText? = none := by
    rwa [← isSome_toText?_iff hc, Option.not_isSome_iff_eq_none] at hbig
  refine ⟨fs₁, ?_, FileSystem.prepared_keeps hprepared⟩
  rw [save_eq, hprepared]
  simp only [htext]

end Saving

/-! ## The round trip -/

/-- **What saving and loading keep.** -/
structure RoundTrips : Prop where
  /-- Where something can be written, a configuration is saved exactly if its seconds have a TOML
  form. -/
  saved_iff {c : Configuration} {fs : FileSystem} {path : String} (_ : c.Fits)
    (_ : fs.Writable path) : (c.save fs path).1 = none ↔ c.Printable
  /-- If they have none then that is the error, and all files keep their contents, the one under the
  path among them. -/
  unprintable {c : Configuration} {fs : FileSystem} {path : String} (_ : c.Fits)
    (_ : fs.Writable path) (_ : ¬ c.Printable) : (c.save fs path).1 = some .unprintable
      ∧ ∀ other contents, fs.read other = .ok contents →
        (c.save fs path).2.read other = .ok contents
  /-- A configuration that has been saved is loaded as it was, with its paths completed, if it lacks
  nothing then. -/
  loaded {c : Configuration} {fs : FileSystem} {path : String} {home : Option String} (_ : c.Fits)
    (_ : (c.save fs path).1 = none) (_ : ∀ field, (c.expandPaths home).lacks field = false) :
    load (c.save fs path).2 home path = .ok (c.expandPaths home)
  /-- Otherwise it is refused, and the message lists what it lacks. -/
  refused {c : Configuration} {fs : FileSystem} {path : String} {home : Option String} (_ : c.Fits)
    (_ : (c.save fs path).1 = none) {field : MissingField}
    (_ : (c.expandPaths home).lacks field = true) :
    ∃ e, load (c.save fs path).2 home path = .error e
      ∧ e.message = "Configuration error: " ++ ("Configuration incomplete\n\nPlease edit " ++ path
        ++ " and set:\n  - " ++ "\n  - ".intercalate
          ((requirable.filter (c.expandPaths home).lacks).map MissingField.text))
  /-- Completing the paths has no influence on what is lacking. -/
  lacking {c : Configuration} {home : Option String} (_ : Path.NamesHome home) :
    (c.expandPaths home).lacks = c.lacks
  /-- What has been loaded from any file can be saved under any path, and is loaded from there
  again. -/
  again {fs fs' : FileSystem} {path path' : String} {home : Option String} {c : Configuration}
    (_ : load fs home path = .ok c) (_ : Path.NamesHome home) (_ : fs'.Writable path') :
    (c.save fs' path').1 = none ∧ load (c.save fs' path').2 home path' = .ok c

/-- **A configuration survives being saved and loaded.** -/
theorem configurations_roundTrip : RoundTrips where
  saved_iff := save_eq_none_iff
  unprintable hc hwritable hbig := by
    obtain ⟨fs₁, hsave, hkeeps⟩ := save_of_not_printable hc hwritable hbig
    rw [hsave]
    exact ⟨rfl, fun _ _ => hkeeps.read⟩
  loaded hc hsaved hcomplete := by
    rw [load_of_save hc hsaved, missingFields_eq_nil_iff.mpr hcomplete]
  refused {c _ path home} hc hsaved field hlacks := by
    refine ⟨.incomplete path (requirable.filter (c.expandPaths home).lacks), ?_, rfl⟩
    have hmem : field ∈ (c.expandPaths home).missingFields := mem_missingFields_iff.mpr hlacks
    rw [load_of_save hc hsaved, ← missingFields_eq_filter]
    cases hmissing : (c.expandPaths home).missingFields with
    | nil => simp [hmissing] at hmem
    | cons first fields => rfl
  lacking := lacks_expandPaths
  again {_ fs' _ path' home c} hload hhome hwritable := by
    obtain ⟨text, parsed, -, hparsed, rfl, hcomplete⟩ := exists_of_load hload
    obtain ⟨⟨hssh, hlaunch⟩, hprintable⟩ := fits_and_printable_of_ofText? hparsed
    have hfits : (parsed.expandPaths home).Fits := ⟨hssh, hlaunch⟩
    have hsaved := (save_eq_none_iff hfits hwritable).mpr
      ⟨hprintable.timeout, hprintable.launchTimeout, hprintable.bootDelay, hprintable.retryInterval⟩
    refine ⟨hsaved, ?_⟩
    rw [load_of_save hfits hsaved, expandPaths_expandPaths hhome, hcomplete]

/-- A file that says no more than it has to. -/
def sparse : FileSystem where
  root := .dir [("config.toml", .file (Utf8.encode ("[agent]\npayload_path = \"~/agent.jar\"\n\n"
    ++ "[launch]\nsecurity = \"supplied_password\"\nadmin_password = \"x\"\n")))]

/-- What it says, with its path completed. -/
def sparseConfiguration : Configuration where
  agent := ⟨"/home/me/agent.jar"⟩
  launch := { security := .suppliedPassword, adminPassword := some ⟨"x"⟩ }

lemma load_sparse : load sparse (some "/home/me") "config.toml" = .ok sparseConfiguration := by
  decide +kernel

/-- This survives, unless a number in it becomes too big. -/
theorem configurations_roundTrip_sparse :
    let c := sparseConfiguration
    let big := { c with ssh.timeoutSecs := greatest + 1 }
    Path.NamesHome (some "/home/me") ∧ sparse.Writable "saved/config.toml"
      ∧ (c.save sparse "saved/config.toml").1 = none
      ∧ load (c.save sparse "saved/config.toml").2 (some "/home/me") "saved/config.toml" = .ok c
      ∧ big.Fits ∧ ¬ big.Printable
      ∧ (big.save sparse "saved/config.toml").1 = some .unprintable := by
  intro c big
  have hhome : Path.NamesHome (some "/home/me") := by
    rintro dir heq
    obtain rfl := Option.some.inj heq
    exact ⟨by decide, fun rest => by simp⟩
  have hwritable : sparse.Writable "saved/config.toml" := ⟨_, _, rfl, rfl⟩
  obtain ⟨hsaved, hagain⟩ := configurations_roundTrip.again load_sparse hhome hwritable
  have hfits : big.Fits := ⟨⟨by decide, by decide⟩, ⟨by decide, by decide, by decide⟩⟩
  have hbig : ¬ big.Printable := fun h => absurd h.timeout (by decide)
  exact ⟨hhome, hwritable, hsaved, hagain, hfits, hbig,
    (configurations_roundTrip.unprintable hfits hwritable hbig).1⟩

end Configuration

end AgentLaunch
