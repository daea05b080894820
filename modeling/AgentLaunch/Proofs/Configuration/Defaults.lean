import AgentLaunch.Proofs.Configuration.RoundTrip

/-!
# Defaults

What is left out of a configuration file is told twice.  The reader of a section knows what a field
is that the section does not give, and the section's own defaults stand for a section that the file
does not have.  For sessions and launches both say the same.  For the cloud they differ in the name
of the program: a section that does not name it means the usual one, and without the section there
is no name.

* `ReadsOver` — a reader that keeps to a standard record where nothing is given.
* `readsOver_iff` — it does if the slots have the defaults of this record.
* `AddsEmpty` — two texts of which one has an empty section more.
* `AddsEmpty.ofText?_eq` — what the section changes.
* `readsOver_cloud_iff`, `keepsDefaults_cloud_iff` — the defaults for the cloud.
* **`defaults_agree`** — where the two sources of defaults agree, and where they do not.

Both sources are made comparable by the slots.  A section that gives some of its keys is read as a
record which has the given values and elsewhere the defaults of the slots, so the reader keeps to a
standard record exactly if the two agree slot by slot.  That is decided by looking at the slots.

For a section that is missing the comparison is between two texts.  `AddsEmpty` says what it means
for one of them to have an empty section more, in the document that it denotes and not in its
characters, so it does not matter where the section stands.  The name of the program is the one
field in which the two readings differ, and `withUsualCli` is that difference; `defaults_disagree`
shows it in a file.
-/

namespace AgentLaunch

open Document (valuesAt)

/-! ## Fields that are left out -/

section Fields

variable {R : Type} {dialect : Dialect} {slots : List (Slot R)} {ofDocument? : Document → Option R}
  {standard : R}

/-- Entries for any of the fields of a record: each field is given at most once, and with a value
that can be read. -/
structure Gives (slots : List (Slot R)) (entries : List (Option String × Document)) : Prop where
  readable : Document.Readable (slots.map Slot.name) entries
  valid : ∀ slot ∈ slots, ∀ d ∈ valuesAt slot.name entries, (slot.read? d).isSome

/-- Whatever fields are given, a record is read that has their values, and those of a standard
record in all other fields. -/
def ReadsOver (slots : List (Slot R)) (ofDocument? : Document → Option R) (standard : R) : Prop :=
  ∀ entries, Gives slots entries → ∃ r, ofDocument? (.table entries) = some r ∧ ∀ slot ∈ slots,
    (∀ d ∈ valuesAt slot.name entries, slot.read? d = some (slot.get r))
      ∧ (valuesAt slot.name entries = [] → slot.get r = slot.get standard)

/-- **The standard record is the one with the defaults of the slots.** -/
lemma readsOver_iff (h : ReadBySlots dialect slots ofDocument?) :
    ReadsOver slots ofDocument? standard
      ↔ ∀ slot ∈ slots, slot.default? = some (slot.get standard) := by
  constructor
  · intro hover slot hslot
    obtain ⟨r, hr, hslots⟩ := hover [] ⟨⟨by simp, by simp⟩, by simp⟩
    have hdefault : slot.default? = some (slot.get r) := (h.reads_table_iff.mp hr).2 slot hslot
    rw [hdefault, (hslots slot hslot).2 rfl]
  · intro hdefaults entries hgives
    obtain ⟨r, hr, hslots⟩ := h.of_table hgives.readable hgives.valid fun slot hslot _ =>
      hdefaults slot hslot ▸ rfl
    refine ⟨r, hr, fun slot hslot => ⟨(hslots slot hslot).1, fun hnone => ?_⟩⟩
    exact Option.some.inj (((hslots slot hslot).2 hnone).symm.trans (hdefaults slot hslot))

end Fields

/-! ## Sections that are left out -/

namespace Configuration

section Sections

variable {name text text' : String} {dialect : Dialect}

/-- Two texts with the same entries, except that the second one has an empty section that the first
one does not have. -/
def AddsEmpty (name text text' : String) : Prop :=
  ∃ front back, valuesAt name (front ++ back) = []
    ∧ Toml.read? text = some (.table (front ++ back))
    ∧ Toml.read? text' = some (.table (front ++ (some name, .table []) :: back))

/-- **What an empty section changes** is the section itself: it has the defaults of its fields. -/
lemma AddsEmpty.ofText?_eq (slot : Slot Configuration) (put : Configuration → Configuration)
    (h : AddsEmpty slot.name text text') (hslot : slot ∈ slots .toml)
    (hdefault : slot.default?.isSome)
    (hput : ∀ c, slot.default? = some (slot.get c) →
      slot.read? (.table []) = some (slot.get (put c)))
    (hothers : ∀ c, ∀ other ∈ slots .toml, other.name ≠ slot.name →
      other.get (put c) = other.get c) :
    ofText? text' = (ofText? text).map put := by
  obtain ⟨front, back, hnew, htext, htext'⟩ := h
  rw [ofText?, ofText?, htext, htext']
  exact (readBySlots .toml).of_insert hslot hnew hdefault hput hothers

lemma ofText?_addsEmpty_ssh (h : AddsEmpty "ssh" text text') : ofText? text' = ofText? text := by
  have hsame := AddsEmpty.ofText?_eq (slots .toml)[1] id h (List.getElem_mem _) rfl
    (fun _ hdefault => hdefault) (fun _ _ _ _ => rfl)
  rwa [Option.map_id] at hsame

lemma ofText?_addsEmpty_launch (h : AddsEmpty "launch" text text') :
    ofText? text' = ofText? text := by
  have hsame := AddsEmpty.ofText?_eq (slots .toml)[3] id h (List.getElem_mem _) rfl
    (fun _ hdefault => hdefault) (fun _ _ _ _ => rfl)
  rwa [Option.map_id] at hsame

/-- A configuration with the cloud's settings as they are read from an empty section. -/
def withUsualCli (c : Configuration) : Configuration :=
  { c with aws := { cli := CloudSettings.usualCli } }

lemma ofText?_addsEmpty_aws (h : AddsEmpty "aws" text text') :
    ofText? text' = (ofText? text).map withUsualCli := by
  refine AddsEmpty.ofText?_eq (slots .toml)[0] withUsualCli h (List.getElem_mem _) rfl
    (fun _ _ => rfl) fun c => ?_
  change ∀ other ∈ slots .toml, other.name ≠ "aws" → other.get (withUsualCli c) = other.get c
  simp only [slots, List.forall_mem_cons]
  exact ⟨fun hname => absurd rfl hname, fun _ => rfl, fun _ => rfl, fun _ => rfl, by simp⟩

/-- Without the section there is no name of a program. -/
lemma aws_of_addsEmpty {c : Configuration} (h : AddsEmpty "aws" text text')
    (hc : ofText? text = some c) : c.aws = {} := by
  obtain ⟨front, back, hnew, htext, -⟩ := h
  rw [ofText?, htext, Option.bind_some] at hc
  obtain ⟨-, hslots⟩ := (readBySlots .toml).reads_table_iff.mp hc
  have haws := hslots (slots .toml)[0] (List.getElem_mem _)
  rw [Slot.among?, show valuesAt (slots .toml)[0].name (front ++ back) = [] from hnew] at haws
  exact (Option.some.inj haws).symm

end Sections

/-! ## Files with an empty section more -/

section Files

variable {fs fs' : FileSystem} {path text text' : String} {home : Option String}

lemma load_congr (h : fs.readText path = .ok text) (h' : fs'.readText path = .ok text')
    (hsame : ofText? text' = ofText? text) : load fs' home path = load fs home path := by
  rw [load_of_readText home h, load_of_readText home h', hsame]

lemma load_addsEmpty_aws (h : fs.readText path = .ok text) (h' : fs'.readText path = .ok text')
    (hadds : AddsEmpty "aws" text text') :
    load fs' home path = (load fs home path).map withUsualCli := by
  rw [load_of_readText home h, load_of_readText home h', ofText?_addsEmpty_aws hadds]
  cases hparsed : ofText? text with
  | none => rfl
  | some c =>
      have haws : c.aws = {} := aws_of_addsEmpty hadds hparsed
      have hexpand : (withUsualCli c).expandPaths home = withUsualCli (c.expandPaths home) := rfl
      have hmissing : (withUsualCli (c.expandPaths home)).missingFields
          = (c.expandPaths home).missingFields := by
        rw [missingFields, missingFields]
        simp only [withUsualCli, expandPaths, haws]
        rfl
      simp only [Option.map_some, hexpand, hmissing]
      cases (c.expandPaths home).missingFields <;> rfl

lemma aws_of_load {c : Configuration} (h : fs.readText path = .ok text)
    (hadds : AddsEmpty "aws" text text') (hc : load fs home path = .ok c) : c.aws = {} := by
  obtain ⟨_, parsed, htext, hparsed, rfl, -⟩ := exists_of_load hc
  obtain rfl := Except.ok.inj (h.symm.trans htext)
  rw [expandPaths, aws_of_addsEmpty hadds hparsed]
  rfl

/-- Only where nothing is loaded does the section make no difference. -/
lemma load_addsEmpty_aws_eq_iff (h : fs.readText path = .ok text)
    (h' : fs'.readText path = .ok text') (hadds : AddsEmpty "aws" text text') :
    load fs' home path = load fs home path ↔ ∀ c, load fs home path ≠ .ok c := by
  rw [load_addsEmpty_aws h h' hadds]
  cases hload : load fs home path with
  | error e => exact iff_of_true rfl (by simp)
  | ok c =>
      refine iff_of_false (fun hsame => ?_) (fun hnone => hnone c rfl)
      have haws : { cli := CloudSettings.usualCli } = c.aws :=
        congrArg aws (Except.ok.inj hsame)
      rw [aws_of_load h hadds hload] at haws
      exact absurd haws (by decide)

end Files

/-! ## The template -/

section Template

variable {fs : FileSystem} {path text : String} {entries : List (Option String × Document)}

/-- Entries that leave out all keys of the template, except that of the agent's file: the other
sections are empty, if they are there. -/
structure Blank (entries : List (Option String × Document)) : Prop where
  readable : Document.Readable ["aws", "ssh", "agent", "launch"] entries
  agent : ∃ d, valuesAt "agent" entries = [d] ∧ AgentSettings.ofDocument? .toml d = some ⟨""⟩
  others : ∀ name ∈ ["aws", "ssh", "launch"], ∀ d ∈ valuesAt name entries, d = .table []

/-- What is read from such entries: the template, unless there is an empty section for the cloud. -/
lemma ofText?_of_blank (h : Blank entries) (htext : Toml.read? text = some (.table entries)) :
    ofText? text
      = some (if valuesAt "aws" entries = [] then template else withUsualCli template) := by
  obtain ⟨agent, hagent, hpath⟩ := h.agent
  -- An empty section is read like one that is not there, if both have the same defaults.
  have hsection : ∀ name ∈ ["aws", "ssh", "launch"], valuesAt name entries = []
      ∨ ∃ more, valuesAt name entries = .table [] :: more := by
    intro name hname
    cases hvalues : valuesAt name entries with
    | nil => exact .inl rfl
    | cons d more => exact .inr ⟨more, by rw [h.others name hname d (by simp [hvalues])]⟩
  rw [ofText?, htext, Option.bind_some, (readBySlots .toml).reads_table_iff]
  refine ⟨h.readable, ?_⟩
  simp only [slots, List.forall_mem_cons, Slot.among?, Slot.plain, hagent, List.head?_cons, hpath]
  refine ⟨?_, ?_, ?_, ?_, by simp⟩
  · rcases hsection "aws" (by simp) with hnone | ⟨more, hsome⟩
    · rw [hnone, if_pos rfl]
      rfl
    · rw [hsome, if_neg (List.cons_ne_nil _ _)]
      rfl
  · rcases hsection "ssh" (by simp) with hnone | ⟨more, hsome⟩
    · rw [hnone]
      split_ifs <;> rfl
    · rw [hsome]
      split_ifs <;> rfl
  · split_ifs <;> rfl
  · rcases hsection "launch" (by simp) with hnone | ⟨more, hsome⟩
    · rw [hnone]
      split_ifs <;> rfl
    · rw [hsome]
      split_ifs <;> rfl

lemma template_fits : template.Fits :=
  ⟨⟨by decide, by decide⟩, ⟨by decide, by decide, by decide⟩⟩

lemma template_printable : template.Printable :=
  ⟨by decide, by decide, by decide, by decide⟩

end Template

/-! ## Where the defaults agree -/

section Cloud

variable {dialect : Dialect} {standard : CloudSettings}

lemma readsOver_cloud_iff :
    ReadsOver CloudSettings.slots (CloudSettings.ofDocument? dialect) standard
      ↔ standard = { ({} : CloudSettings) with cli := CloudSettings.usualCli } := by
  rw [readsOver_iff (CloudSettings.readBySlots dialect)]
  simp only [CloudSettings.slots, List.forall_mem_cons]
  constructor
  · rintro ⟨hregion, hprofile, hkey, hcli, -⟩
    obtain ⟨region, profile, privateKey, cli⟩ := standard
    obtain rfl : none = region := Option.some.inj hregion
    obtain rfl : none = profile := Option.some.inj hprofile
    obtain rfl : none = privateKey := Option.some.inj hkey
    obtain rfl : CloudSettings.usualCli = cli := Option.some.inj hcli
    rfl
  · rintro rfl
    exact ⟨rfl, rfl, rfl, rfl, by simp⟩

/-- The fields that are left out are those of a section that is not there exactly if the program is
not one of them. -/
lemma keepsDefaults_cloud_iff {entries : List (Option String × Document)} {s : CloudSettings}
    (hgives : Gives CloudSettings.slots entries)
    (hs : CloudSettings.ofDocument? dialect (.table entries) = some s) :
    (∀ slot ∈ CloudSettings.slots, valuesAt slot.name entries = [] → slot.get s = slot.get {})
      ↔ valuesAt "cli" entries ≠ [] := by
  obtain ⟨s', hs', hover⟩ := readsOver_cloud_iff.mpr rfl entries hgives
  obtain rfl := Option.some.inj (hs.symm.trans hs')
  simp only [CloudSettings.slots, List.forall_mem_cons] at hover ⊢
  obtain ⟨⟨-, hregion⟩, ⟨-, hprofile⟩, ⟨-, hkey⟩, ⟨-, hcli⟩, -⟩ := hover
  constructor
  · rintro ⟨-, -, -, hnone, -⟩ hleft
    have hnames : CloudSettings.usualCli = "" := (hcli hleft).symm.trans (hnone hleft)
    exact absurd hnames (by decide)
  · exact fun hgiven => ⟨hregion, hprofile, hkey, fun hleft => absurd hleft hgiven, by simp⟩

end Cloud

/-- **The two sources of defaults**, with a section that is written in some text format. -/
structure DefaultsAgree (dialect : Dialect) : Prop where
  /-- Whatever keys the section for sessions gives, the others have the defaults of the settings. -/
  ssh : ReadsOver SshSettings.slots (SshSettings.ofDocument? dialect) {}
  /-- So it is for launches. -/
  launch : ReadsOver (LaunchSettings.slots dialect) (LaunchSettings.ofDocument? dialect) {}
  /-- For the cloud the keys have the defaults of one record only.  It names the usual program, and
  the one that stands for a section that is not there names none. -/
  cloud (standard : CloudSettings) :
    ReadsOver CloudSettings.slots (CloudSettings.ofDocument? dialect) standard
      ↔ standard = { ({} : CloudSettings) with cli := CloudSettings.usualCli }
  /-- So the other keys have the defaults of the settings exactly if the program is given. -/
  cloudGiven {entries : List (Option String × Document)} {s : CloudSettings}
    (_ : Gives CloudSettings.slots entries)
    (_ : CloudSettings.ofDocument? dialect (.table entries) = some s) :
    (∀ slot ∈ CloudSettings.slots, valuesAt slot.name entries = [] → slot.get s = slot.get {})
      ↔ valuesAt "cli" entries ≠ []
  /-- A file without a section for sessions is loaded like one in which this section is empty. -/
  withoutSsh {fs fs' : FileSystem} {path text text' : String} {home : Option String}
    (_ : fs.readText path = .ok text) (_ : fs'.readText path = .ok text')
    (_ : AddsEmpty "ssh" text text') : load fs' home path = load fs home path
  /-- So it is for launches. -/
  withoutLaunch {fs fs' : FileSystem} {path text text' : String} {home : Option String}
    (_ : fs.readText path = .ok text) (_ : fs'.readText path = .ok text')
    (_ : AddsEmpty "launch" text text') : load fs' home path = load fs home path
  /-- A file without a section for the cloud is accepted if one is in which this section is empty,
  and else refused with the same error.  The program has no name if the section is not there, and
  its usual name if it is empty; nothing else is different.  So the two are loaded alike only where
  nothing is loaded. -/
  withoutAws {fs fs' : FileSystem} {path text text' : String} {home : Option String}
    (_ : fs.readText path = .ok text) (_ : fs'.readText path = .ok text')
    (_ : AddsEmpty "aws" text text') :
    load fs' home path = (load fs home path).map withUsualCli
      ∧ (∀ c, load fs home path = .ok c → c.aws = {})
      ∧ (load fs' home path = load fs home path ↔ ∀ c, load fs home path ≠ .ok c)
  /-- The file written from the template has its values. -/
  template {fs : FileSystem} {path : String} (_ : fs.Writable path) :
    (template.save fs path).1 = none
      ∧ ∃ text, (template.save fs path).2.readText path = .ok text ∧ ofText? text = some template
  /-- So has a file that leaves all these keys out, as long as it has no section for the cloud: in
  an empty one the program has its usual name. -/
  blank {text : String} {entries : List (Option String × Document)}
    (_ : Toml.read? text = some (.table entries)) (_ : Blank entries) :
    ofText? text = some (if valuesAt "aws" entries = [] then Configuration.template
      else withUsualCli Configuration.template)

/-- **Defaults agree** for sessions and launches, and for the cloud in everything but the
program. -/
theorem defaults_agree (dialect : Dialect) : DefaultsAgree dialect where
  ssh := (readsOver_iff (SshSettings.readBySlots dialect)).mpr <| by
    simp only [SshSettings.slots, List.forall_mem_cons]
    exact ⟨rfl, rfl, by simp⟩
  launch := (readsOver_iff (LaunchSettings.readBySlots dialect)).mpr <| by
    simp only [LaunchSettings.slots, List.forall_mem_cons]
    exact ⟨rfl, rfl, rfl, rfl, rfl, rfl, rfl, rfl, rfl, rfl, rfl, rfl, rfl, rfl, by simp⟩
  cloud _ := readsOver_cloud_iff
  cloudGiven hgives hs := keepsDefaults_cloud_iff hgives hs
  withoutSsh h h' hadds := load_congr h h' (ofText?_addsEmpty_ssh hadds)
  withoutLaunch h h' hadds := load_congr h h' (ofText?_addsEmpty_launch hadds)
  withoutAws h h' hadds := ⟨load_addsEmpty_aws h h' hadds, fun _ => aws_of_load h hadds,
    load_addsEmpty_aws_eq_iff h h' hadds⟩
  template hwritable := by
    have hsaved := (save_eq_none_iff template_fits hwritable).mpr template_printable
    exact ⟨hsaved, readText_of_save template_fits hsaved⟩
  blank htext h := ofText?_of_blank h htext

/-- A file that names the agent's file and supplies a password, after some other text. -/
def supplied (before : String) : FileSystem where
  root := .dir [("config.toml", .file (Utf8.encode (before
    ++ "[agent]\npayload_path = \"/opt/agent.jar\"\n\n[launch]\n"
    ++ "security = \"supplied_password\"\nadmin_password = \"x\"\n")))]

/-- **An empty section for the cloud makes a difference**: its program has a name then. -/
theorem defaults_disagree :
    ¬ ReadsOver CloudSettings.slots (CloudSettings.ofDocument? .toml) {}
      ∧ ∃ c : Configuration, load (supplied "") none "config.toml" = .ok c
        ∧ load (supplied "[aws]\n\n") none "config.toml" = .ok (withUsualCli c)
        ∧ c.aws.cli = "" ∧ (withUsualCli c).aws.cli = "aws" := by
  constructor
  · rw [readsOver_cloud_iff]
    decide
  · refine ⟨{ agent := ⟨"/opt/agent.jar"⟩, launch := {
      security := .suppliedPassword, adminPassword := some ⟨"x"⟩ } }, ?_, ?_, rfl, rfl⟩
    · decide +kernel
    · decide +kernel

end Configuration

end AgentLaunch
