import AgentLaunch.Proofs.Attempt.Failures
import AgentLaunch.Proofs.Configuration.RoundTrip
import AgentLaunch.Rehearsal.Performance

/-!
# Validation

What a configuration has to have is asked for in three places: when it is loaded, when a decryptor
is made for it, and when an attempt looks for its credentials.  Loading asks first, and what it
accepts satisfies the other two, which makes their complaints unreachable.

* `exists_decryptor_iff`, `hasCredentials_plan_iff` — what the other two ask for.
* `load_eq_ok_iff` — that loading asks for both.
* `takesAgents_events` — the program's own channel takes every agent.
* **`validation_agrees`** — an accepted configuration is never blamed.

To be blamed is to get a message about the configuration.  There are two sources of it in an attempt
that has begun: a password that is to be supplied and is not there, which loading excludes, and a
channel that refuses the agent with such a message.  The second is up to the channel, so `blameless`
has it as a condition, and the channel of the program itself meets it, since it never refuses
(`takesAgents_events`).

The equivalence in `accepted_iff` runs over all instances and all replies, so nothing that the cloud
says can make an accepted configuration insufficient.  Not to decrypt anything is a case of its own:
with a supplied password the decryptor is one that is not used, and nobody asks it.
-/

namespace AgentLaunch

open Attempt
open Dialogue (Answered Transcript run_replay)

/-! ## The program's own channel -/

namespace Rehearsal

/-- **The program's own channel takes every agent**, whatever happens beside it. -/
lemma takesAgents_events {α : Type} (date : Timestamp) (activity : Activity α)
    (scene : Scene Site) : TakesAgents ((siteSurroundings date).run activity scene).events := by
  intro name reply hmem
  have hanswered : Answered (siteSurroundings date).respond scene
      ((siteSurroundings date).run activity scene).events := (run_replay activity scene).2.2
  obtain ⟨_, hreply⟩ := hanswered.exists_respond hmem
  have hempty : reply = {} := hreply
  rw [hempty]

end Rehearsal

namespace Configuration

open Cloud (Decryptor)

/-! ## What is asked for -/

section Consumers

variable {c : Configuration}

/-- A decryptor can be made unless the key is lacking. -/
lemma exists_decryptor_iff :
    (∃ d, Decryptor.ofConfiguration c = .ok d) ↔ c.lacks .privateKey = false := by
  rw [Decryptor.ofConfiguration, lacks]
  cases c.launch.security <;> cases c.aws.privateKey <;> simp

/-- An attempt has the credentials it needs unless the password is lacking. -/
lemma hasCredentials_plan_iff {instanceId : String} {name : Option String} {createdAt : Timestamp} :
    HasCredentials (c.launch.plan instanceId name createdAt)
      ↔ c.lacks .adminPassword = false := by
  rw [HasCredentials, LaunchSettings.plan, lacks]
  cases c.launch.security <;> cases c.launch.adminPassword <;> simp

/-- Nobody decrypts anything only if the password is supplied. -/
lemma security_of_unused (h : Decryptor.ofConfiguration c = .ok .unused) :
    c.launch.security = .suppliedPassword := by
  rw [Decryptor.ofConfiguration] at h
  cases hsecurity : c.launch.security with
  | suppliedPassword => rfl
  | derivedPassword => cases hkey : c.aws.privateKey <;> simp [hsecurity, hkey] at h

/-- **Loading asks for what the others ask for**, once the agent's file is named. -/
lemma load_eq_ok_iff {fs : FileSystem} {home : Option String} {path text : String}
    {parsed : Configuration} (hread : fs.readText path = .ok text)
    (hparsed : ofText? text = some parsed)
    (hpath : (parsed.expandPaths home).agent.payloadPath ≠ "") :
    load fs home path = .ok (parsed.expandPaths home)
      ↔ (∃ d, Decryptor.ofConfiguration (parsed.expandPaths home) = .ok d)
        ∧ ∀ instanceId name createdAt, HasCredentials
          ((parsed.expandPaths home).launch.plan instanceId name createdAt) := by
  have hload : load fs home path = .ok (parsed.expandPaths home)
      ↔ (parsed.expandPaths home).missingFields = [] := by
    rw [load_of_readText home hread, hparsed]
    cases hmissing : (parsed.expandPaths home).missingFields <;> simp [hmissing]
  have hnamed : (parsed.expandPaths home).lacks .payloadPath = false :=
    beq_eq_false_iff_ne.mpr hpath
  rw [hload, missingFields_eq_nil_iff, exists_decryptor_iff]
  constructor
  · intro hcomplete
    exact ⟨hcomplete .privateKey,
      fun _ _ _ => hasCredentials_plan_iff.mpr (hcomplete .adminPassword)⟩
  · rintro ⟨hkey, hcredentials⟩ field
    cases field with
    | payloadPath => exact hnamed
    | privateKey => exact hkey
    | adminPassword => exact hasCredentials_plan_iff.mp (hcredentials "" none default)

lemma lacks_of_load {fs : FileSystem} {home : Option String} {path : String}
    (h : load fs home path = .ok c) (field : MissingField) : c.lacks field = false := by
  obtain ⟨_, _, -, -, -, hcomplete⟩ := exists_of_load h
  exact missingFields_eq_nil_iff.mp hcomplete field

end Consumers

/-! ## Attempts with a configuration -/

section Attempts

variable {c : Configuration} {instanceId : String} {name : Option String} {createdAt : Timestamp}
  {rounds : Nat} {es : List Event}

/-- **An attempt with an accepted configuration does not blame it.** -/
lemma not_blamed {fs : FileSystem} {home : Option String} {path : String} {outcome : Outcome}
    (h : load fs home path = .ok c)
    (ht : Transcript (Attempt.launch (c.launch.plan instanceId name createdAt) rounds) es
      (some outcome))
    (htakes : TakesAgents es) (text : String) :
    outcome ≠ .aborted (LaunchError.config text).message := by
  rintro rfl
  have hplan : HasCredentials (c.launch.plan instanceId name createdAt) :=
    hasCredentials_plan_iff.mpr (lacks_of_load h .adminPassword)
  obtain ⟨e, he, hmessage⟩ := (transcript_launch ht).aborted hplan htakes
  exact he.message_ne text hmessage.symm

/-- Where nobody decrypts anything, nobody is asked to. -/
lemma decryptsNothing_of_unused (h : Decryptor.ofConfiguration c = .ok .unused) {o : Option Outcome}
    (ht : Transcript (Attempt.launch (c.launch.plan instanceId name createdAt) rounds) es o) :
    DecryptsNothing es :=
  (transcript_launch ht).decryptsNothing (security_of_unused h)

end Attempts

/-- The task of a program is made of an accepted configuration and its decryptor. -/
lemma exists_of_taskOf {dirs : UserDirs} {arguments : Arguments} {fs : FileSystem}
    {task : Program.Task} (h : Program.taskOf dirs arguments fs = .ok task) :
    load fs dirs.home (Program.configurationPath dirs arguments) = .ok task.configuration
      ∧ Decryptor.ofConfiguration task.configuration = .ok task.decryptor := by
  rw [Program.taskOf] at h
  cases hload : load fs dirs.home (Program.configurationPath dirs arguments) with
  | error e =>
      rw [hload] at h
      cases h
  | ok c =>
      rw [hload] at h
      cases hdecryptor : Decryptor.ofConfiguration c with
      | error e => simp [hdecryptor, Bind.bind, Except.bind] at h
      | ok d =>
          simp only [hdecryptor, Bind.bind, Except.bind, pure, Except.pure] at h
          obtain rfl := Except.ok.inj h
          exact ⟨rfl, hdecryptor⟩

/-! ## The agreement -/

/-- **Validation and the consumers of a configuration agree.** -/
structure ValidationAgrees : Prop where
  /-- A configuration that names the agent's file is accepted exactly if a decryptor can be made for
  it, and looking for credentials never ends in a complaint about the configuration: for no
  instance, and whatever the cloud and the decryptor reply. -/
  accepted_iff {fs : FileSystem} {home : Option String} {path text : String}
    {parsed : Configuration} (_ : fs.readText path = .ok text) (_ : ofText? text = some parsed)
    (_ : (parsed.expandPaths home).agent.payloadPath ≠ "") :
    load fs home path = .ok (parsed.expandPaths home)
      ↔ (∃ d, Decryptor.ofConfiguration (parsed.expandPaths home) = .ok d)
        ∧ ∀ instanceId name createdAt es text, ¬ Transcript (resolveCredentials
          ((parsed.expandPaths home).launch.plan instanceId name createdAt)).run es
          (some (.error (.config text)))
  /-- So there is a task as soon as there is an accepted configuration. -/
  begins {dirs : UserDirs} {arguments : Arguments} {fs : FileSystem} {c : Configuration}
    (_ : load fs dirs.home (Program.configurationPath dirs arguments) = .ok c) :
    ∃ decryptor, Program.taskOf dirs arguments fs = .ok ⟨arguments, c, decryptor⟩
  /-- No attempt with an accepted configuration is aborted with a complaint about the configuration,
  whatever the cloud, the decryptor, the agent's file and the remote host do, as long as the channel
  takes the agent. -/
  blameless {fs : FileSystem} {home : Option String} {path : String} {c : Configuration}
    (_ : load fs home path = .ok c) {instanceId : String} {name : Option String}
    {createdAt : Timestamp} {rounds : Nat} {es : List Event} {outcome : Outcome}
    (_ : Transcript (Attempt.launch (c.launch.plan instanceId name createdAt) rounds) es
      (some outcome))
    (_ : TakesAgents es) (text : String) : outcome ≠ .aborted (LaunchError.config text).message
  /-- Nothing is decrypted in an attempt if nobody decrypts anything. -/
  unused {c : Configuration} (_ : Decryptor.ofConfiguration c = .ok .unused) {instanceId : String}
    {name : Option String} {createdAt : Timestamp} {rounds : Nat} {es : List Event}
    {o : Option Outcome}
    (_ : Transcript (Attempt.launch (c.launch.plan instanceId name createdAt) rounds) es o) :
    DecryptsNothing es
  /-- The program itself brings a channel that takes the agent, so both hold of the attempt that it
  makes of its task, with any programs beside it and any remote host. -/
  performed {dirs : UserDirs} {arguments : Arguments} {fs : FileSystem} {task : Program.Task}
    (_ : Program.taskOf dirs arguments fs = .ok task) (createdAt date : Timestamp) (rounds : Nat)
    (scene : Scene Rehearsal.Site) :
    let run := (Rehearsal.siteSurroundings date).run (Attempt.launch (task.configuration.launch.plan
      task.arguments.instanceId task.arguments.name createdAt) rounds) scene
    (∀ text, run.result ≠ some (.aborted (LaunchError.config text).message))
      ∧ (task.decryptor = .unused → DecryptsNothing run.events)

/-- **Whatever a configuration is accepted for, it is enough for.** -/
theorem validation_agrees : ValidationAgrees where
  accepted_iff hread hparsed hpath := by
    rw [load_eq_ok_iff hread hparsed hpath]
    simp only [resolveCredentials_blameless_iff]
  begins {dirs arguments fs c} h := by
    obtain ⟨d, hd⟩ := exists_decryptor_iff.mpr (lacks_of_load h .privateKey)
    refine ⟨d, ?_⟩
    rw [Program.taskOf, h]
    simp only [Bind.bind, Except.bind, hd]
    rfl
  blameless h _ _ _ _ _ _ ht htakes := not_blamed h ht htakes
  unused h _ _ _ _ _ _ ht := decryptsNothing_of_unused h ht
  performed {_ _ _ task} h createdAt date rounds scene := by
    obtain ⟨hload, hdecryptor⟩ := exists_of_taskOf h
    have ht := Surroundings.run_transcript (Rehearsal.siteSurroundings date)
      (Attempt.launch (task.configuration.launch.plan task.arguments.instanceId
        task.arguments.name createdAt) rounds) scene
    refine ⟨fun text hresult => ?_, fun hunused => ?_⟩
    · rw [hresult] at ht
      exact not_blamed hload ht (Rehearsal.takesAgents_events date _ scene) text rfl
    · exact decryptsNothing_of_unused (hunused ▸ hdecryptor) ht

/-- With a password that is supplied there is nothing to blame, and nothing to decrypt. -/
theorem validation_agrees_sparse : ∃ task : Program.Task,
    Program.taskOf { home := some "/home/me" }
        { config := some "config.toml", instanceId := "i-1" } sparse = .ok task
      ∧ task.decryptor = .unused
      ∧ (∀ instanceId name createdAt es text, ¬ Transcript (resolveCredentials
          (task.configuration.launch.plan instanceId name createdAt)).run es
          (some (.error (.config text))))
      ∧ ∀ scene : Scene Rehearsal.Site,
        let run := (Rehearsal.siteSurroundings default).run
          (Attempt.launch (task.configuration.launch.plan "i-1" none default) 62) scene
        (∀ text, run.result ≠ some (.aborted (LaunchError.config text).message))
          ∧ DecryptsNothing run.events := by
  have hload := load_sparse
  obtain ⟨text, parsed, hread, hparsed, hc, -⟩ := exists_of_load hload
  obtain ⟨decryptor, htask⟩ : ∃ decryptor, Program.taskOf { home := some "/home/me" }
      { config := some "config.toml", instanceId := "i-1" } sparse = .ok ⟨_, _, decryptor⟩ :=
    validation_agrees.begins hload
  obtain rfl : .unused = decryptor := Except.ok.inj (exists_of_taskOf htask).2
  refine ⟨_, htask, rfl, ?_, fun scene => ?_⟩
  · rw [hc] at hload ⊢
    exact ((validation_agrees.accepted_iff hread hparsed (hc ▸ by decide)).mp hload).2
  · obtain ⟨hresult, hdecrypts⟩ := validation_agrees.performed htask default default 62 scene
    exact ⟨hresult, hdecrypts rfl⟩

end Configuration

end AgentLaunch
