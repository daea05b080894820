import AgentLaunch.Proofs.Attempt.Launch
import AgentLaunch.Proofs.Attempt.RemoteFiles
import AgentLaunch.Proofs.WorkDir

/-!
# How an attempt runs the init script

Seen from the init script, an attempt has three parts.  What comes first does not touch any file;
then the script is run, unless there is none or its marker is there; and what comes after touches
only the agent's file.

* `Visit` — a bootstrap or a launch, as an activity that succeeds or fails.
* `InitCourse` — the ways of the middle part.
* `VisitCourse` — a whole visit in its three parts; it may end in each of them.
* **`Visit.course`** — every visit is of this kind.

A bootstrap ends with a directory or an error, and a launch with an outcome.  Only success and
failure matter here, so both are taken as activities with one bit for a result, and one inductive
type describes them.  A visit may be cut short in each of its parts, by a setback or because its
wait is unfinished, and `VisitCourse` has one constructor for each of these ends.

`Preliminary` and `Subsequent` say what the events of the outer parts may be.  They leave out
exactly those requests that a reader of the marker's story has to see: uploads to the script or to
the marker, questions about the marker, and the command that runs the script.  That the command for
the directory is never the one for the script is checked once, in `makeDirCommand_ne_initCommand`.
-/

namespace AgentLaunch.Attempt

open Dialogue

/-! ## Requests by their part -/

/-- The command that runs the init script of a directory. -/
def initCommand (dir : WorkDir) : String := runBatchCommand (dir.join WorkDir.initScriptFile)

/-- An event that touches no file, and has nothing to do with the init script or the agent. -/
def Preliminary (dir : WorkDir) (x : Event) : Prop :=
  match x.request with
  | .call (.putFile _ _) => False
  | .call (.fileExists _) => False
  | .call (.fetch _) => False
  | .call (.execute command none) => command ≠ initCommand dir
  | _ => True

/-- An event that leaves the init script and its marker alone. -/
def Subsequent (dir : WorkDir) (x : Event) : Prop :=
  match x.request with
  | .call (.putFile path _) => path = dir.join WorkDir.agentFile
  | .call (.fileExists _) => False
  | .call (.execute command none) => command ≠ initCommand dir
  | _ => True

section Parts

variable {dir : WorkDir} {x : Event}

lemma Preliminary.subsequent (h : Preliminary dir x) : Subsequent dir x := by
  unfold Preliminary at h
  unfold Subsequent
  split at h <;> simp_all

lemma preliminary_of_waits (h : x.request.Waits) : Preliminary dir x := by
  obtain ⟨request, reply⟩ := x
  cases request
  case call c => cases c <;> trivial
  all_goals trivial

lemma preliminary_of_cleansUp (h : x.request.CleansUp) : Preliminary dir x := by
  obtain ⟨request, reply⟩ := x
  cases request
  case call c => cases c <;> trivial
  all_goals trivial

lemma preliminary_of_final (h : x.request.Final) : Preliminary dir x := by
  rcases h with hclean | ⟨hook, hkeeps⟩
  · exact preliminary_of_cleansUp hclean
  · unfold Preliminary
    rw [hkeeps]
    trivial

/-- Making a directory is not running a script. -/
lemma makeDirCommand_ne_initCommand (dir dir' : WorkDir) :
    makeDirCommand dir ≠ initCommand dir' := by
  intro h
  have hchars := congrArg (fun command => command.toList.head?) h
  simp [makeDirCommand, initCommand, runBatchCommand] at hchars

lemma preliminary_directoryScript (process : ProcessId) :
    ∀ step ∈ directoryScript dir process, step.Always (Preliminary dir) := by
  simp [directoryScript, awaitStep, Step.Always, Preliminary, called, said,
    makeDirCommand_ne_initCommand]

end Parts

/-! ## The middle part -/

/-- The ways of running the init script once.  The flag tells whether the attempt goes on. -/
inductive InitCourse (plan : LaunchPlan) (dir : WorkDir) : List Event → Bool → Prop where
  | notConfigured (hscript : plan.effectiveInitScript = none) : InitCourse plan dir [] true
  | unknown {script : String} (hscript : plan.effectiveInitScript = some script)
      (e : TransportError) :
      InitCourse plan dir [called (.fileExists (dir.join WorkDir.initMarkerFile)) (.error e)] false
  | alreadyDone {script : String} (hscript : plan.effectiveInitScript = some script) :
      InitCourse plan dir
        [called (.fileExists (dir.join WorkDir.initMarkerFile)) (.ok true),
          said "Init script already ran, skipping"]
        true
  | completed {script : String} (hscript : plan.effectiveInitScript = some script)
      {process : ProcessId} {output : Option CommandOutput} {es : List Event}
      (hrun : Completes (initRunScript dir script process output) es) :
      InitCourse plan dir
        (called (.fileExists (dir.join WorkDir.initMarkerFile)) (.ok false) :: es) true
  | failed {script : String} (hscript : plan.effectiveInitScript = some script)
      {process : ProcessId} {output : Option CommandOutput} {es : List Event} {e : LaunchError}
      (hrun : Stops (initRunScript dir script process output) es e) :
      InitCourse plan dir
        (called (.fileExists (dir.join WorkDir.initMarkerFile)) (.ok false) :: es) false

section Middle

variable {plan : LaunchPlan} {dir : WorkDir} {marked : Bool} {process : ProcessId}
  {output : Option CommandOutput} {es : List Event}

lemma initCourse_of_completes (h : Completes (initScript plan dir marked process output) es) :
    InitCourse plan dir es true := by
  unfold initScript at h
  cases hscript : plan.effectiveInitScript with
  | none =>
      rw [hscript] at h
      obtain ⟨-, rfl⟩ := h
      exact .notConfigured hscript
  | some script =>
      rw [hscript] at h
      cases marked with
      | true =>
          obtain ⟨-, rfl⟩ := h
          exact .alreadyDone hscript
      | false =>
          have hsplit : Completes ([_] ++ initRunScript dir script process output) es := h
          obtain ⟨_, _, ⟨-, rfl⟩, hrun, rfl⟩ := hsplit.append_cases
          exact .completed hscript hrun

lemma initCourse_of_stops {e : LaunchError}
    (h : Stops (initScript plan dir marked process output) es e) :
    InitCourse plan dir es false := by
  unfold initScript at h
  cases hscript : plan.effectiveInitScript with
  | none =>
      rw [hscript] at h
      exact absurd h not_stops_nil
  | some script =>
      rw [hscript] at h
      cases h with
      | here reply hs =>
          rcases reply with e | found
          · obtain rfl := Option.some.inj hs
            exact .unknown hscript e
          · simp [failing] at hs
      | later hstep hrun =>
          cases marked with
          | true =>
              rcases hrun with _ | ⟨-, hrun⟩
              exact absurd hrun not_stops_nil
          | false => exact .failed hscript hrun

end Middle

/-! ## Visits -/

/-- A visit to the remote host: bootstrapping it with a session that is ready, or a launch. -/
inductive Visit where
  | bootstrap (plan : LaunchPlan)
  | launch (plan : LaunchPlan) (rounds : Nat)

namespace Visit

def plan : Visit → LaunchPlan
  | bootstrap plan => plan
  | launch plan _ => plan

/-- The working directory of a visit. -/
def dir (v : Visit) : WorkDir := WorkDir.resolve v.plan.tmpDir

/-- What happens in a visit, and whether it succeeds. -/
def activity : Visit → Activity Bool
  | bootstrap plan => Except.isOk <$> (prepare plan).run
  | launch plan rounds =>
    (fun outcome => decide (outcome = .channelEstablished)) <$> Attempt.launch plan rounds

end Visit

/-- A visit in its parts, and how it ends. -/
inductive VisitCourse (plan : LaunchPlan) (dir : WorkDir) : List Event → Option Bool → Prop where
  | early {before : List Event} {o : Option Bool} (hbefore : ∀ x ∈ before, Preliminary dir x)
      (ho : o ≠ some true) : VisitCourse plan dir before o
  | stopped {before middle after : List Event} (hbefore : ∀ x ∈ before, Preliminary dir x)
      (hmiddle : InitCourse plan dir middle false) (hafter : ∀ x ∈ after, Preliminary dir x) :
      VisitCourse plan dir (before ++ middle ++ after) (some false)
  | prepared {before middle after : List Event} {o : Option Bool}
      (hbefore : ∀ x ∈ before, Preliminary dir x) (hmiddle : InitCourse plan dir middle true)
      (hafter : ∀ x ∈ after, Subsequent dir x) :
      VisitCourse plan dir (before ++ middle ++ after) o

section Courses

variable {plan : LaunchPlan} {dir : WorkDir} {es : List Event}

/-- What comes before does not matter. -/
lemma VisitCourse.prepend {waited : List Event} {o : Option Bool}
    (hwaited : ∀ x ∈ waited, Preliminary dir x) (h : VisitCourse plan dir es o) :
    VisitCourse plan dir (waited ++ es) o := by
  cases h with
  | early hbefore ho => exact .early (List.forall_mem_append.mpr ⟨hwaited, hbefore⟩) ho
  | stopped hbefore hmiddle hafter =>
      rw [List.append_assoc, ← List.append_assoc, ← List.append_assoc]
      exact .stopped (List.forall_mem_append.mpr ⟨hwaited, hbefore⟩) hmiddle hafter
  | prepared hbefore hmiddle hafter =>
      rw [List.append_assoc, ← List.append_assoc, ← List.append_assoc]
      exact .prepared (List.forall_mem_append.mpr ⟨hwaited, hbefore⟩) hmiddle hafter

lemma preliminary_said (line : String) : Preliminary dir (said line) := trivial

/-- A working directory that has been made ready. -/
lemma VisitCourse.of_completes {a : Answers} {rest : List Event} {o : Option Bool}
    (h : Completes (prepareScript plan a) es)
    (hrest : ∀ x ∈ rest, Subsequent (WorkDir.resolve plan.tmpDir) x) :
    VisitCourse plan (WorkDir.resolve plan.tmpDir) (es ++ rest) o := by
  obtain ⟨before, middle, hbefore, hmiddle, rfl⟩ := h.append_cases
  exact .prepared (hbefore.forall_mem (preliminary_directoryScript _))
    (initCourse_of_completes hmiddle) hrest

/-- A working directory that has not. -/
lemma VisitCourse.of_stops {a : Answers} {e : LaunchError} {rest : List Event}
    (h : Stops (prepareScript plan a) es e)
    (hrest : ∀ x ∈ rest, Preliminary (WorkDir.resolve plan.tmpDir) x) :
    VisitCourse plan (WorkDir.resolve plan.tmpDir) (es ++ rest) (some false) := by
  rcases h.append_cases with hstop | ⟨before, middle, hbefore, hmiddle, rfl⟩
  · have hes := hstop.forall_mem preliminary_said (preliminary_directoryScript _)
    exact .early (List.forall_mem_append.mpr ⟨hes, hrest⟩) (by simp)
  · exact .stopped (hbefore.forall_mem (preliminary_directoryScript _))
      (initCourse_of_stops hmiddle) hrest

lemma subsequent_startScript (payload : Bytes) (agent : ProcessId) :
    ∀ step ∈ startScript plan dir payload agent, step.Always (Subsequent dir) := by
  simp [startScript, uploadScript, agentStep, Step.Always, Subsequent, called, said]

lemma preliminary_handsOver {agent : ProcessId} {name : String} {r : Except LaunchError Unit}
    (h : HandsOver agent name es r) : ∀ x ∈ es, Preliminary dir x := by
  have hfinal : ∀ {rest : List Event}, (∀ q ∈ requests rest, q.Final) →
      ∀ x ∈ rest, Preliminary dir x :=
    fun h x hx => preliminary_of_final (h x.request (List.mem_map.mpr ⟨x, hx, rfl⟩))
  cases h with
  | @noStreams hasOutput hasInput rest _ hrest =>
      have hclean : ∀ q ∈ requests rest, q.CleansUp := by
        rw [hrest]
        exact cleansUp_tearDownRequests agent
      have hlast := hfinal fun q hq => .inl (hclean q hq)
      simpa [Preliminary, called] using hlast
  | @offered channel rest hrest =>
      have hlast := hfinal (hrest ▸ final_requestsAfterBind name agent channel)
      simpa [Preliminary, called] using hlast

lemma preliminary_farewell (e : LaunchError) : ∀ x ∈ farewell e, Preliminary dir x := by
  cases e <;> simp [farewell, preliminary_said]

lemma visitCourse_usesSession {outcome : Outcome} (h : UsesSession plan es outcome) :
    VisitCourse plan (WorkDir.resolve plan.tmpDir) es
      (some (decide (outcome = .channelEstablished))) := by
  cases h with
  | @notProvisioned a es e hstop =>
      have hend : ∀ x ∈ called .closeSession () :: farewell e,
          Preliminary (WorkDir.resolve plan.tmpDir) x :=
        List.forall_mem_cons.mpr ⟨trivial, preliminary_farewell e⟩
      rcases hstop.append_cases with hprepare | ⟨es₁, es₂, hprepare, hstart, rfl⟩
      · simpa using VisitCourse.of_stops hprepare hend
      · rw [List.append_assoc]
        refine .of_completes hprepare (List.forall_mem_append.mpr ⟨?_, ?_⟩)
        · exact hstart.forall_mem (fun line => (preliminary_said line).subsequent)
            (subsequent_startScript _ _)
        · exact fun x hx => (hend x hx).subsequent
  | @provisioned a es es' r hdone hhand =>
      obtain ⟨es₁, es₂, hprepare, hstart, rfl⟩ := hdone.append_cases
      have hfarewell : ∀ x ∈ farewellOf r, Subsequent (WorkDir.resolve plan.tmpDir) x := by
        cases r with
        | ok => simp [farewellOf]
        | error e => exact fun x hx => (preliminary_farewell e x hx).subsequent
      rw [List.append_assoc]
      refine .of_completes hprepare (List.forall_mem_append.mpr ⟨?_, ?_⟩)
      · exact hstart.forall_mem (subsequent_startScript _ _)
      · exact List.forall_mem_append.mpr
          ⟨fun x hx => (preliminary_handsOver hhand x hx).subsequent, hfarewell⟩

lemma visitCourse_bootstrap {o : Option (Except LaunchError PreparedDir)}
    (ht : Transcript (prepare plan).run es o) :
    VisitCourse plan (WorkDir.resolve plan.tmpDir) es (o.map Except.isOk) := by
  rw [← List.append_nil es]
  rcases (follows_prepare plan).course es o ht with
    ⟨_, _, ⟨-, a, rfl⟩, hdone, rfl⟩ | ⟨_, _, e, ⟨-, a, rfl⟩, hstop, rfl⟩
  · exact .of_completes hdone (by simp)
  · exact .of_stops hstop (by simp)

/-- Until there is a session, no file is touched. -/
lemma preliminary_establishment {rounds : Nat} {o : Option (Except LaunchError SessionTarget)}
    (h : Establishment plan rounds es o) : ∀ x ∈ es, Preliminary dir x :=
  fun x hx => preliminary_of_waits (waitsOnly_establishment h x hx)

lemma visitCourse_launch {rounds : Nat} {o : Option Outcome}
    (ht : Transcript (launch plan rounds) es o) :
    VisitCourse plan (WorkDir.resolve plan.tmpDir) es
      (o.map fun outcome => decide (outcome = .channelEstablished)) := by
  cases transcript_launch ht with
  | unfinished hwait => exact .early (preliminary_establishment hwait) (by simp)
  | concluded hwait h =>
      refine .prepend (preliminary_establishment hwait) ?_
      cases h with
      | timedOut => exact .early (by simp [preliminary_said]) (by simp)
      | failed => exact .early (preliminary_farewell _) (by simp)
      | connected huse => exact visitCourse_usesSession huse

/-- **The shape of every visit.** -/
theorem Visit.course {v : Visit} {o : Option Bool} (ht : Transcript v.activity es o) :
    VisitCourse v.plan v.dir es o := by
  cases v with
  | bootstrap plan =>
      obtain ⟨r, hprepare, rfl⟩ := transcript_map_iff.mp ht
      exact visitCourse_bootstrap hprepare
  | launch plan rounds =>
      obtain ⟨r, hlaunch, rfl⟩ := transcript_map_iff.mp ht
      exact visitCourse_launch hlaunch

end Courses

end AgentLaunch.Attempt
