import AgentLaunch.Configuration
import AgentLaunch.Proofs.Document.Slots

/-!
# The slots of a configuration

Every section of a configuration is read slot by slot, and so is the configuration itself, whose
slots are the sections.  The slots say twice what a field is if it is left out: with the slot, for
a section that is there, and in the record that stands for a section that is not.

* `Slot.plain`, `Slot.optional` — the two kinds of slots.
* `LaunchSettings.slots` and its neighbours — the slots of each section, and that it is read by
  them: `LaunchSettings.readBySlots` and its neighbours.
* `LaunchSettings.entries_eq_written` and its neighbours — that each section is written by them.

A field is declared once in its slot, with the way in which it is read and written, and that reading
undoes writing is shown for each kind of value and not for each field: `Slot.plain` for a value
that is always written and `Slot.optional` for one that may be left out.  What is left for a section
is to list its slots and to check that its reader and its writer follow the list.

Numbers are read only if they are in the range of their fields.  `Fits` is this condition, as a
structure with a field for each number, and it is the only hypothesis under which a configuration is
faithful to its slots.
-/

namespace AgentLaunch

namespace Slot

variable {R α : Type}

/-- A field that is always written. -/
def plain (name : String) (get : R → α) (read? : Document → Option α) (default? : Option α)
    (write : α → Document) : Slot R where
  name
  get
  read?
  default?
  write? := fun r => some (write (get r))

/-- A field that may have no value, which is written by leaving it out. -/
def optional (name : String) (get : R → Option α) (item? : Document → Option α)
    (write : α → Document) : Slot R where
  name
  get
  read? := Document.nullable? item?
  default? := some none
  write? := fun r => (get r).map write

variable {name : String} {read? : Document → Option α} {write : α → Document} {fields : Fields}

lemma in?_plain_some {get : R → α} {default : α} :
    (plain name get read? (some default) write).in? fields = fields.orElse? name default read? := by
  rw [in?, Fields.orElse?]
  rfl

lemma in?_plain_none {get : R → α} :
    (plain name get read? none write).in? fields = fields.required? name read? := by
  rw [in?, Fields.required?]
  cases h : fields.lookup name <;> simp [plain, h]

lemma in?_optional {get : R → Option α} :
    (optional name get read? write).in? fields = fields.optional? name read? := by
  rw [in?, Fields.optional?, Fields.orElse?]
  rfl

lemma faithful_plain {get : R → α} {default? : Option α} {r : R}
    (h : read? (write (get r)) = some (get r)) :
    (plain name get read? default? write).Faithful r := h

lemma faithful_optional {get : R → Option α} {r : R}
    (h : ∀ a, Document.nullable? read? (write a) = some (some a)) :
    (optional name get read? write).Faithful r := by
  cases hget : get r with
  | none => simp [Faithful, optional, hget]
  | some a => simpa [Faithful, optional, hget] using h a

end Slot

/-! ## Plain values -/

namespace Document

lemma natBelow?_ofNat {bound n : Nat} (h : n < bound) : natBelow? bound (ofNat n) = some n := by
  have hn : (0 : Int) ≤ n ∧ (n : Int) < bound := ⟨Int.natCast_nonneg n, Int.ofNat_lt.mpr h⟩
  rw [ofNat, natBelow?, if_pos hn, Int.toNat_natCast]

end Document

lemma SecurityMode.ofName?_name (mode : SecurityMode) : ofName? mode.name = some mode := by
  cases mode <;> decide

lemma ConnectionStrategy.ofName?_name (strategy : ConnectionStrategy) :
    ofName? strategy.name = some strategy := by
  cases strategy <;> decide

/-! ## Launch settings -/

namespace LaunchSettings

variable {dialect : Dialect}

def slots (dialect : Dialect) : List (Slot LaunchSettings) :=
  [.plain "remote_admin" remoteAdmin Document.text? (some canonicalAdmin) .ofText,
    .optional "admin_password" adminPassword secret? (.ofText ∘ Secret.expose),
    .plain "security" security (Document.variant? dialect SecurityMode.ofName?)
      (some .derivedPassword) (.ofText ∘ SecurityMode.name),
    .plain "use_https" useHttps Document.bool? (some false) .bool,
    .plain "launch_timeout_secs" launchTimeoutSecs Document.nat64? (some 600) .ofNat,
    .plain "boot_delay_secs" bootDelaySecs Document.nat64? (some 60) .ofNat,
    .plain "stop_on_terminate" stopOnTerminate Document.bool? (some false) .bool,
    .plain "connection_strategy" connectionStrategy
      (Document.variant? dialect ConnectionStrategy.ofName?) (some .publicIp)
      (.ofText ∘ ConnectionStrategy.name),
    .plain "retry_interval_secs" retryIntervalSecs Document.nat64? (some 10) .ofNat,
    .optional "tmp_dir" tmpDir Document.text? .ofText,
    .optional "init_script" initScript Document.text? .ofText,
    .optional "jvm_opts" jvmOpts Document.text? .ofText,
    .optional "remote_fs" remoteFs Document.text? .ofText,
    .plain "java_path" javaPath Document.text? (some "java") .ofText]

lemma ofFields?_eq_some_iff {fields : Fields} {s : LaunchSettings} :
    ofFields? dialect fields = some s
      ↔ ∀ slot ∈ slots dialect, slot.in? fields = some (slot.get s) := by
  simp only [slots, List.forall_mem_cons, Slot.in?_plain_some, Slot.in?_optional]
  constructor
  · intro h
    obtain ⟨_, h₁, h⟩ := Option.bind_eq_some_iff.mp h
    obtain ⟨_, h₂, h⟩ := Option.bind_eq_some_iff.mp h
    obtain ⟨_, h₃, h⟩ := Option.bind_eq_some_iff.mp h
    obtain ⟨_, h₄, h⟩ := Option.bind_eq_some_iff.mp h
    obtain ⟨_, h₅, h⟩ := Option.bind_eq_some_iff.mp h
    obtain ⟨_, h₆, h⟩ := Option.bind_eq_some_iff.mp h
    obtain ⟨_, h₇, h⟩ := Option.bind_eq_some_iff.mp h
    obtain ⟨_, h₈, h⟩ := Option.bind_eq_some_iff.mp h
    obtain ⟨_, h₉, h⟩ := Option.bind_eq_some_iff.mp h
    obtain ⟨_, h₁₀, h⟩ := Option.bind_eq_some_iff.mp h
    obtain ⟨_, h₁₁, h⟩ := Option.bind_eq_some_iff.mp h
    obtain ⟨_, h₁₂, h⟩ := Option.bind_eq_some_iff.mp h
    obtain ⟨_, h₁₃, h⟩ := Option.bind_eq_some_iff.mp h
    obtain ⟨_, h₁₄, h⟩ := Option.bind_eq_some_iff.mp h
    obtain rfl := Option.some.inj h
    exact ⟨h₁, h₂, h₃, h₄, h₅, h₆, h₇, h₈, h₉, h₁₀, h₁₁, h₁₂, h₁₃, h₁₄, by simp⟩
  · rintro ⟨h₁, h₂, h₃, h₄, h₅, h₆, h₇, h₈, h₉, h₁₀, h₁₁, h₁₂, h₁₃, h₁₄, -⟩
    rw [ofFields?, h₁, h₂, h₃, h₄, h₅, h₆, h₇, h₈, h₉, h₁₀, h₁₁, h₁₂, h₁₃, h₁₄]
    rfl

lemma isSome_ofFields? {fields : Fields}
    (h : ∀ slot ∈ slots dialect, (slot.in? fields).isSome) : (ofFields? dialect fields).isSome := by
  simp only [slots, List.forall_mem_cons, Slot.in?_plain_some, Slot.in?_optional,
    Option.isSome_iff_exists] at h
  obtain ⟨⟨_, h₁⟩, ⟨_, h₂⟩, ⟨_, h₃⟩, ⟨_, h₄⟩, ⟨_, h₅⟩, ⟨_, h₆⟩, ⟨_, h₇⟩, ⟨_, h₈⟩, ⟨_, h₉⟩, ⟨_, h₁₀⟩,
    ⟨_, h₁₁⟩, ⟨_, h₁₂⟩, ⟨_, h₁₃⟩, ⟨_, h₁₄⟩, -⟩ := h
  rw [ofFields?, h₁, h₂, h₃, h₄, h₅, h₆, h₇, h₈, h₉, h₁₀, h₁₁, h₁₂, h₁₃, h₁₄]
  rfl

/-- **Launch settings are read by their slots.** -/
lemma readBySlots (dialect : Dialect) :
    ReadBySlots dialect (slots dialect) (ofDocument? dialect) where
  names_nodup := by
    change fieldNames.Nodup
    decide
  ext s s' h := by
    simp only [slots, List.forall_mem_cons] at h
    obtain ⟨h₁, h₂, h₃, h₄, h₅, h₆, h₇, h₈, h₉, h₁₀, h₁₁, h₁₂, h₁₃, h₁₄, -⟩ := h
    obtain ⟨⟩ := s
    obtain ⟨⟩ := s'
    exact LaunchSettings.mk.injEq .. ▸
      ⟨h₁, h₂, h₃, h₄, h₅, h₆, h₇, h₈, h₉, h₁₀, h₁₁, h₁₂, h₁₃, h₁₄⟩
  reads_iff d s := by
    rw [ofDocument?, Option.bind_eq_some_iff]
    exact exists_congr fun _ => and_congr_right fun _ => ofFields?_eq_some_iff
  reads d fields hfields h := by
    have hnames : d.fields? dialect fieldNames = some fields := hfields
    rw [ofDocument?, hnames]
    exact isSome_ofFields? h

lemma entries_eq_written (dialect : Dialect) (s : LaunchSettings) :
    s.entries = Slot.written (slots dialect) s := by
  obtain ⟨_, _ | _, _, _, _, _, _, _, _, _ | _, _ | _, _ | _, _ | _, _⟩ := s <;> rfl

/-- Durations are in the range of their fields. -/
structure Fits (s : LaunchSettings) : Prop where
  launchTimeout : s.launchTimeoutSecs < Nat.pow 2 64
  bootDelay : s.bootDelaySecs < Nat.pow 2 64
  retryInterval : s.retryIntervalSecs < Nat.pow 2 64

lemma faithful {s : LaunchSettings} (h : s.Fits) :
    ∀ slot ∈ slots dialect, slot.Faithful s := by
  simp only [slots, List.forall_mem_cons]
  have hoptional : ∀ text, Document.nullable? Document.text? (.ofText text) = some (some text) :=
    fun _ => rfl
  exact ⟨Slot.faithful_plain rfl, Slot.faithful_optional fun _ => rfl,
    Slot.faithful_plain (SecurityMode.ofName?_name _), Slot.faithful_plain rfl,
    Slot.faithful_plain (Document.natBelow?_ofNat h.launchTimeout),
    Slot.faithful_plain (Document.natBelow?_ofNat h.bootDelay), Slot.faithful_plain rfl,
    Slot.faithful_plain (ConnectionStrategy.ofName?_name _),
    Slot.faithful_plain (Document.natBelow?_ofNat h.retryInterval),
    Slot.faithful_optional hoptional, Slot.faithful_optional hoptional,
    Slot.faithful_optional hoptional, Slot.faithful_optional hoptional, Slot.faithful_plain rfl,
    by simp⟩

end LaunchSettings

/-! ## The other sections -/

namespace CloudSettings

def slots : List (Slot CloudSettings) :=
  [.optional "region" region Document.text? .ofText,
    .optional "profile" profile Document.text? .ofText,
    .optional "private_key" privateKey Document.text? .ofText,
    .plain "cli" cli Document.text? (some usualCli) .ofText]

/-- **Cloud settings are read by their slots.** -/
lemma readBySlots (dialect : Dialect) : ReadBySlots dialect slots (ofDocument? dialect) where
  names_nodup := by
    change ["region", "profile", "private_key", "cli"].Nodup
    decide
  ext s s' h := by
    simp only [slots, List.forall_mem_cons] at h
    obtain ⟨h₁, h₂, h₃, h₄, -⟩ := h
    obtain ⟨⟩ := s
    obtain ⟨⟩ := s'
    exact CloudSettings.mk.injEq .. ▸ ⟨h₁, h₂, h₃, h₄⟩
  reads_iff d s := by
    simp only [slots, List.forall_mem_cons, Slot.in?_plain_some, Slot.in?_optional]
    rw [ofDocument?, Option.bind_eq_bind, Option.bind_eq_some_iff]
    refine exists_congr fun fields => and_congr_right fun _ => ⟨fun h => ?_, ?_⟩
    · simp only [Option.bind_eq_bind, Option.bind_eq_some_iff, Option.pure_def,
        Option.some.injEq] at h
      obtain ⟨_, h₁, _, h₂, _, h₃, _, h₄, rfl⟩ := h
      exact ⟨h₁, h₂, h₃, h₄, by simp⟩
    · rintro ⟨h₁, h₂, h₃, h₄, -⟩
      rw [h₁, h₂, h₃, h₄]
      rfl
  reads d fields hfields h := by
    have hnames : d.fields? dialect ["region", "profile", "private_key", "cli"] = some fields :=
      hfields
    simp only [slots, List.forall_mem_cons, Slot.in?_plain_some, Slot.in?_optional,
      Option.isSome_iff_exists] at h
    obtain ⟨⟨_, h₁⟩, ⟨_, h₂⟩, ⟨_, h₃⟩, ⟨_, h₄⟩, -⟩ := h
    rw [ofDocument?, hnames, Option.bind_eq_bind, Option.bind_some, h₁, h₂, h₃, h₄]
    rfl

lemma entries_eq_written (s : CloudSettings) : s.entries = Slot.written slots s := by
  obtain ⟨_ | _, _ | _, _ | _, _⟩ := s <;> rfl

lemma faithful (s : CloudSettings) : ∀ slot ∈ slots, slot.Faithful s := by
  simp only [slots, List.forall_mem_cons]
  have hoptional : ∀ text, Document.nullable? Document.text? (.ofText text) = some (some text) :=
    fun _ => rfl
  exact ⟨Slot.faithful_optional hoptional, Slot.faithful_optional hoptional,
    Slot.faithful_optional hoptional, Slot.faithful_plain rfl, by simp⟩

end CloudSettings

namespace SshSettings

def slots : List (Slot SshSettings) :=
  [.plain "port" port Document.nat16? (some 22) .ofNat,
    .plain "timeout_secs" timeoutSecs Document.nat64? (some 30) .ofNat]

/-- **Session settings are read by their slots.** -/
lemma readBySlots (dialect : Dialect) : ReadBySlots dialect slots (ofDocument? dialect) where
  names_nodup := by
    change ["port", "timeout_secs"].Nodup
    decide
  ext s s' h := by
    simp only [slots, List.forall_mem_cons] at h
    obtain ⟨h₁, h₂, -⟩ := h
    obtain ⟨⟩ := s
    obtain ⟨⟩ := s'
    exact SshSettings.mk.injEq .. ▸ ⟨h₁, h₂⟩
  reads_iff d s := by
    simp only [slots, List.forall_mem_cons, Slot.in?_plain_some]
    rw [ofDocument?, Option.bind_eq_bind, Option.bind_eq_some_iff]
    refine exists_congr fun fields => and_congr_right fun _ => ⟨fun h => ?_, ?_⟩
    · simp only [Option.bind_eq_bind, Option.bind_eq_some_iff, Option.pure_def,
        Option.some.injEq] at h
      obtain ⟨_, h₁, _, h₂, rfl⟩ := h
      exact ⟨h₁, h₂, by simp⟩
    · rintro ⟨h₁, h₂, -⟩
      rw [h₁, h₂]
      rfl
  reads d fields hfields h := by
    have hnames : d.fields? dialect ["port", "timeout_secs"] = some fields := hfields
    simp only [slots, List.forall_mem_cons, Slot.in?_plain_some, Option.isSome_iff_exists] at h
    obtain ⟨⟨_, h₁⟩, ⟨_, h₂⟩, -⟩ := h
    rw [ofDocument?, hnames, Option.bind_eq_bind, Option.bind_some, h₁, h₂]
    rfl

lemma entries_eq_written (s : SshSettings) : s.entries = Slot.written slots s := rfl

/-- The numbers are in the range of their fields. -/
structure Fits (s : SshSettings) : Prop where
  port : s.port < Nat.pow 2 16
  timeout : s.timeoutSecs < Nat.pow 2 64

lemma faithful {s : SshSettings} (h : s.Fits) : ∀ slot ∈ slots, slot.Faithful s := by
  simp only [slots, List.forall_mem_cons]
  exact ⟨Slot.faithful_plain (Document.natBelow?_ofNat h.port),
    Slot.faithful_plain (Document.natBelow?_ofNat h.timeout), by simp⟩

end SshSettings

namespace AgentSettings

def slots : List (Slot AgentSettings) :=
  [.plain "payload_path" payloadPath Document.text? none .ofText]

/-- **Agent settings are read by their slot.** -/
lemma readBySlots (dialect : Dialect) : ReadBySlots dialect slots (ofDocument? dialect) where
  names_nodup := by
    change ["payload_path"].Nodup
    decide
  ext s s' h := by
    simp only [slots, List.forall_mem_cons] at h
    obtain ⟨⟩ := s
    obtain ⟨⟩ := s'
    exact AgentSettings.mk.injEq .. ▸ h.1
  reads_iff d s := by
    simp only [slots, List.forall_mem_cons, Slot.in?_plain_none]
    rw [ofDocument?, Option.bind_eq_bind, Option.bind_eq_some_iff]
    refine exists_congr fun fields => and_congr_right fun _ => ⟨fun h => ?_, ?_⟩
    · simp only [Option.bind_eq_bind, Option.bind_eq_some_iff, Option.pure_def,
        Option.some.injEq] at h
      obtain ⟨_, h₁, rfl⟩ := h
      exact ⟨h₁, by simp⟩
    · rintro ⟨h₁, -⟩
      rw [h₁]
      rfl
  reads d fields hfields h := by
    have hnames : d.fields? dialect ["payload_path"] = some fields := hfields
    simp only [slots, List.forall_mem_cons, Slot.in?_plain_none, Option.isSome_iff_exists] at h
    obtain ⟨⟨_, h₁⟩, -⟩ := h
    rw [ofDocument?, hnames, Option.bind_eq_bind, Option.bind_some, h₁]
    rfl

lemma entries_eq_written (s : AgentSettings) : s.entries = Slot.written slots s := rfl

lemma faithful (s : AgentSettings) : ∀ slot ∈ slots, slot.Faithful s := by
  simp only [slots, List.forall_mem_cons]
  exact ⟨Slot.faithful_plain rfl, by simp⟩

end AgentSettings

/-! ## Whole configurations -/

namespace Configuration

variable {dialect : Dialect}

def slots (dialect : Dialect) : List (Slot Configuration) :=
  [.plain "aws" aws (CloudSettings.ofDocument? dialect) (some {})
      (.ofEntries ∘ CloudSettings.entries),
    .plain "ssh" ssh (SshSettings.ofDocument? dialect) (some {}) (.ofEntries ∘ SshSettings.entries),
    .plain "agent" agent (AgentSettings.ofDocument? dialect) none
      (.ofEntries ∘ AgentSettings.entries),
    .plain "launch" launch (LaunchSettings.ofDocument? dialect) (some {})
      (.ofEntries ∘ LaunchSettings.entries)]

/-- **A configuration is read by its sections.** -/
lemma readBySlots (dialect : Dialect) :
    ReadBySlots dialect (slots dialect) (ofDocument? dialect) where
  names_nodup := by
    change ["aws", "ssh", "agent", "launch"].Nodup
    decide
  ext c c' h := by
    simp only [slots, List.forall_mem_cons] at h
    obtain ⟨h₁, h₂, h₃, h₄, -⟩ := h
    obtain ⟨⟩ := c
    obtain ⟨⟩ := c'
    exact Configuration.mk.injEq .. ▸ ⟨h₁, h₂, h₃, h₄⟩
  reads_iff d c := by
    simp only [slots, List.forall_mem_cons, Slot.in?_plain_some, Slot.in?_plain_none]
    rw [ofDocument?, Option.bind_eq_bind, Option.bind_eq_some_iff]
    refine exists_congr fun fields => and_congr_right fun _ => ⟨fun h => ?_, ?_⟩
    · simp only [Option.bind_eq_bind, Option.bind_eq_some_iff, Option.pure_def,
        Option.some.injEq] at h
      obtain ⟨_, h₁, _, h₂, _, h₃, _, h₄, rfl⟩ := h
      exact ⟨h₁, h₂, h₃, h₄, by simp⟩
    · rintro ⟨h₁, h₂, h₃, h₄, -⟩
      rw [h₁, h₂, h₃, h₄]
      rfl
  reads d fields hfields h := by
    have hnames : d.fields? dialect ["aws", "ssh", "agent", "launch"] = some fields := hfields
    simp only [slots, List.forall_mem_cons, Slot.in?_plain_some, Slot.in?_plain_none,
      Option.isSome_iff_exists] at h
    obtain ⟨⟨_, h₁⟩, ⟨_, h₂⟩, ⟨_, h₃⟩, ⟨_, h₄⟩, -⟩ := h
    rw [ofDocument?, hnames, Option.bind_eq_bind, Option.bind_some, h₁, h₂, h₃, h₄]
    rfl

lemma toDocument_eq_written (dialect : Dialect) (c : Configuration) :
    c.toDocument = .ofEntries (Slot.written (slots dialect) c) := rfl

/-- The numbers are in the range of their fields: 16 bits for the port, 64 bits for seconds. -/
structure Fits (c : Configuration) : Prop where
  ssh : c.ssh.Fits
  launch : c.launch.Fits

lemma faithful {c : Configuration} (h : c.Fits) : ∀ slot ∈ slots dialect, slot.Faithful c := by
  simp only [slots, List.forall_mem_cons]
  refine ⟨Slot.faithful_plain ?_, Slot.faithful_plain ?_, Slot.faithful_plain ?_,
    Slot.faithful_plain ?_, by simp⟩
  · rw [Function.comp_apply, CloudSettings.entries_eq_written]
    exact (CloudSettings.readBySlots dialect).of_written c.aws.faithful
  · rw [Function.comp_apply, SshSettings.entries_eq_written]
    exact (SshSettings.readBySlots dialect).of_written (SshSettings.faithful h.ssh)
  · rw [Function.comp_apply, AgentSettings.entries_eq_written]
    exact (AgentSettings.readBySlots dialect).of_written c.agent.faithful
  · rw [Function.comp_apply, LaunchSettings.entries_eq_written dialect]
    exact (LaunchSettings.readBySlots dialect).of_written (LaunchSettings.faithful h.launch)

/-- **The document of a configuration is read back.** -/
lemma ofDocument?_toDocument {c : Configuration} (h : c.Fits) :
    ofDocument? dialect c.toDocument = some c := by
  rw [toDocument_eq_written dialect]
  exact (readBySlots dialect).of_written (faithful h)

end Configuration

end AgentLaunch
