import AgentLaunch.Attempt.Launch
import AgentLaunch.Proofs.Attempt.Script

/-!
# The canonical sequence of an attempt

What an attempt does with a session that is ready is one sequence of calls: it makes the working
directory, runs the init script unless there is none or its marker is there, uploads the agent,
starts it, claims its streams and offers them as a channel.

Later steps depend on replies to earlier ones: the number of a process, whether a marker is there,
the bytes that have been fetched.  `Answers` holds these replies, so that the whole sequence can be
written down as one list of steps before any of it happens, and the script of a part takes only
those replies that the part reads.

* `canonicalScript` — the sequence, and `provisionScript` its front up to the agent's start.
* `Call.Prepares` — every call of that front but the last one prepares for the agent.
* **`follows_provision`** — the stages follow the script, whatever the replies are.

The lemmas of the last section mirror the definitions of the stages one for one.  A stage that is
made of others has the script that is made of theirs, by `Follows.bind`; the replies that its
branches depend on become the arguments of the script.
-/

namespace AgentLaunch.Attempt

open Dialogue

/-! ## The script -/

/-- The replies in an attempt that later steps depend on. -/
structure Answers where
  /-- The process that makes the working directory. -/
  dirMaker : ProcessId := 0
  /-- The marker is there. -/
  marked : Bool := false
  /-- The process that runs the init script. -/
  initRun : ProcessId := 0
  /-- The output of the init script; none if it cannot be claimed. -/
  initOutput : Option CommandOutput := none
  /-- The agent's file. -/
  payload : Bytes := []
  agent : ProcessId := 0
  /-- The agent's output can be claimed. -/
  hasOutput : Bool := false
  /-- The agent's input can be claimed. -/
  hasInput : Bool := false
  channel : BindReply := {}
  deriving Inhabited

/-- Waits for the end of a command that has to succeed. -/
def awaitStep (process : ProcessId) (step complaint : String) : Step :=
  .ask (.wait process) (.ok 0) fun
    | .ok exitCode =>
      if exitCode = 0 then none
      else some ⟨[complaint ++ toString exitCode], .commandFailed step exitCode⟩
    | .error e => some { error := .transport e }

/-- Makes the working directory. -/
def directoryScript (dir : WorkDir) (process : ProcessId) : List Step :=
  [.say "Creating tmp directory if it does not exist",
    .ask (.execute (makeDirCommand dir) none) (.ok process) (failing .transport),
    awaitStep process "creating tmp directory" "Creating tmpdir failed="]

/-- Copies the output of a command to the progress lines, if it can be claimed. -/
def outputScript (process : ProcessId) : Option CommandOutput → List Step
  | none => [.ask (.takeStdout process) false fun _ => none]
  | some output =>
    .ask (.takeStdout process) true (fun _ => none)
      :: .ask (.readOutput process) output
        (fun output => output.failure.map fun text => ⟨Progress.linesOf output, .io text⟩)
      :: (Progress.linesOf output).map .say

/-- Uploads the init script and runs it. -/
def initExecutionScript (dir : WorkDir) (script : String) (process : ProcessId)
    (output : Option CommandOutput) : List Step :=
  [.say "Executing init script",
    .ask (.putFile (dir.join WorkDir.initScriptFile) (Utf8.encode script)) (.ok ())
      (failing .transport),
    .ask (.execute (runBatchCommand (dir.join WorkDir.initScriptFile)) none) (.ok process)
      (failing .transport)]
  ++ outputScript process output
  ++ [awaitStep process "init script" "init script failed: exit code="]

/-- Records that the init script has succeeded. -/
def markerScript (dir : WorkDir) : List Step :=
  [.ask (.putFile (dir.join WorkDir.initMarkerFile) (Utf8.encode WorkDir.initMarkerText)) (.ok ())
      (failing .transport),
    .say "init script ran successfully"]

/-- Uploads the init script, runs it and writes the marker. -/
def initRunScript (dir : WorkDir) (script : String) (process : ProcessId)
    (output : Option CommandOutput) : List Step :=
  initExecutionScript dir script process output ++ markerScript dir

/-- Runs the init script unless there is none or the marker is there. -/
def initScript (plan : LaunchPlan) (dir : WorkDir) (marked : Bool) (process : ProcessId)
    (output : Option CommandOutput) : List Step :=
  match plan.effectiveInitScript with
  | none => []
  | some script =>
    .ask (.fileExists (dir.join WorkDir.initMarkerFile)) (.ok marked) (failing .transport)
      :: if marked then [.say "Init script already ran, skipping"]
        else initRunScript dir script process output

/-- Fetches the agent and uploads it. -/
def uploadScript (plan : LaunchPlan) (dir : WorkDir) (payload : Bytes) : List Step :=
  [.ask (.fetch WorkDir.agentFile) (.ok payload)
      (failing fun text => .payload ("failed to fetch " ++ WorkDir.agentFile ++ ": " ++ text)),
    .ask (.putFile (dir.join WorkDir.agentFile) payload) (.ok ()) (failing .transport),
    .say (WorkDir.agentFile ++ " sent remotely. Bootstrapping it"),
    .say ("Launching agent: " ++ (AgentCommand.assemble plan dir).line)]

/-- Starts the agent. -/
def agentStep (plan : LaunchPlan) (dir : WorkDir) (agent : ProcessId) : Step :=
  .ask (.execute (AgentCommand.assemble plan dir).line (some agentLimit)) (.ok agent)
    (failing .transport)

/-- Fetches the agent, uploads it and starts it. -/
def startScript (plan : LaunchPlan) (dir : WorkDir) (payload : Bytes) (agent : ProcessId) :
    List Step :=
  uploadScript plan dir payload ++ [agentStep plan dir agent]

/-- Claims the agent's streams; an agent without one of them is of no use. -/
def streamsScript (agent : ProcessId) (hasOutput hasInput : Bool) : List Step :=
  [.ask (.takeStdout agent) hasOutput fun _ => none,
    .ask (.takeStdin agent) hasInput fun hasInput =>
      if hasOutput && hasInput then none
      else some { error := .channel "agent process streams are not available" }]

/-- The setback in a channel that is refused. -/
def refusal? (reply : BindReply) : Option Setback :=
  match reply.verdict with
  | .ok () => none
  | .error e => some { error := e }

lemma refusal?_of_ok {reply : BindReply} (h : reply.verdict = .ok ()) :
    refusal? reply = none := by
  rw [refusal?, h]

lemma refusal?_of_error {reply : BindReply} {e : LaunchError} (h : reply.verdict = .error e) :
    refusal? reply = some { error := e } := by
  rw [refusal?, h]

/-- Offers the agent's streams as a channel. -/
def bindStep (name : String) (channel : BindReply) : Step :=
  .ask (.bind name) channel refusal?

/-- Claims the agent's streams and offers them as a channel. -/
def channelScript (name : String) (agent : ProcessId) (hasOutput hasInput : Bool)
    (channel : BindReply) : List Step :=
  streamsScript agent hasOutput hasInput ++ [bindStep name channel]

/-- From a session that is ready to a working directory that is. -/
def prepareScript (plan : LaunchPlan) (a : Answers) : List Step :=
  directoryScript (WorkDir.resolve plan.tmpDir) a.dirMaker
    ++ initScript plan (WorkDir.resolve plan.tmpDir) a.marked a.initRun a.initOutput

/-- From a session that is ready to a started agent. -/
def provisionScript (plan : LaunchPlan) (a : Answers) : List Step :=
  prepareScript plan a ++ startScript plan (WorkDir.resolve plan.tmpDir) a.payload a.agent

/-- **The canonical sequence**, from a session that is ready to a channel. -/
def canonicalScript (plan : LaunchPlan) (a : Answers) : List Step :=
  provisionScript plan a
    ++ channelScript plan.displayName a.agent a.hasOutput a.hasInput a.channel

/-! ## Before the agent starts -/

/-- Calls that are made before the agent starts. -/
def Call.Prepares : Call → Prop
  | .execute _ limit => limit = none
  | .putFile _ _ => True
  | .fileExists _ => True
  | .wait _ => True
  | .takeStdout _ => True
  | .readOutput _ => True
  | .fetch _ => True
  | _ => False

/-- A step that makes such a call, or none. -/
def Step.Prepares : Step → Prop
  | .say _ => True
  | .ask c _ _ => c.Prepares

lemma prepares_initScript (plan : LaunchPlan) (dir : WorkDir) (marked : Bool)
    (process : ProcessId) (output : Option CommandOutput) :
    ∀ step ∈ initScript plan dir marked process output, step.Prepares := by
  unfold initScript
  cases plan.effectiveInitScript with
  | none => simp
  | some text =>
      cases marked with
      | true => simp [Step.Prepares, Call.Prepares]
      | false =>
          cases output with
          | none =>
              simp [initRunScript, initExecutionScript, markerScript, outputScript, awaitStep,
                Step.Prepares, Call.Prepares]
          | some output =>
              simp [initRunScript, initExecutionScript, markerScript, outputScript, awaitStep,
                Step.Prepares, Call.Prepares, or_imp, forall_and]

/-- Whatever happens before the agent starts prepares for it. -/
lemma prepares_beforeAgent (plan : LaunchPlan) (a : Answers) :
    ∀ step ∈ prepareScript plan a ++ uploadScript plan (WorkDir.resolve plan.tmpDir) a.payload,
      step.Prepares := by
  intro step hstep
  rcases List.mem_append.mp hstep with hprepare | hupload
  · rcases List.mem_append.mp hprepare with hdir | hinit
    · have hall : ∀ step ∈ directoryScript (WorkDir.resolve plan.tmpDir) a.dirMaker,
          step.Prepares := by
        simp [directoryScript, awaitStep, Step.Prepares, Call.Prepares]
      exact hall step hdir
    · exact prepares_initScript plan _ _ _ _ step hinit
  · have hall : ∀ step ∈ uploadScript plan (WorkDir.resolve plan.tmpDir) a.payload,
        step.Prepares := by
      simp [uploadScript, Step.Prepares, Call.Prepares]
    exact hall step hupload

/-- The agent's start is the last step before it is handed over. -/
lemma provisionScript_eq (plan : LaunchPlan) (a : Answers) :
    provisionScript plan a
      = (prepareScript plan a ++ uploadScript plan (WorkDir.resolve plan.tmpDir) a.payload)
        ++ [agentStep plan (WorkDir.resolve plan.tmpDir) a.agent] := by
  simp [provisionScript, startScript]

/-- Offering the channel is the last step of all. -/
lemma canonicalScript_eq (plan : LaunchPlan) (a : Answers) :
    canonicalScript plan a
      = (provisionScript plan a ++ streamsScript a.agent a.hasOutput a.hasInput)
        ++ [bindStep plan.displayName a.channel] := by
  simp [canonicalScript, channelScript]

/-! ## Following the script -/

lemma follows_awaitSuccess (process : ProcessId) (step complaint : String) :
    Follows (awaitSuccess process step complaint) fun script _ =>
      script = [awaitStep process step complaint] where
  possible := ⟨_, (), rfl⟩
  course es o ht := by
    rcases transcript_orFail_bind ht with
      ⟨_, exitCode, rest, hwait, hrest, rfl⟩ | ⟨e, hwait, rfl⟩ | ⟨hwait, rfl⟩
    · obtain rfl := transcript_call_some_iff.mp hwait
      by_cases hzero : exitCode = 0
      · subst hzero
        obtain ⟨rfl, rfl⟩ := transcript_run_pure_iff.mp hrest
        exact .inl ⟨_, (), rfl, .cons rfl .nil, rfl⟩
      · rw [if_pos hzero] at hrest
        obtain ⟨_, hthrow, rfl⟩ := transcript_stage_log_bind_iff.mp hrest
        obtain ⟨rfl, rfl⟩ := transcript_run_throw_iff.mp hthrow
        have hstop : Stops [awaitStep process step complaint]
            (called (.wait process) (Except.ok exitCode : Except TransportError Nat)
              :: [complaint ++ toString exitCode].map said)
            (.commandFailed step exitCode) :=
          .here (s := ⟨[complaint ++ toString exitCode], .commandFailed step exitCode⟩) _
            (if_neg hzero)
        exact .inr ⟨_, (), _, rfl, hstop, rfl⟩
    · obtain rfl := transcript_call_some_iff.mp hwait
      have hstop : Stops [awaitStep process step complaint]
          [called (.wait process) (Except.error e : Except TransportError Nat)]
          (.transport e) := .silently _ rfl
      exact .inr ⟨_, (), _, rfl, hstop, rfl⟩
    · exact absurd hwait not_transcript_call_none

lemma follows_makeDir (dir : WorkDir) :
    Follows (makeDir dir) fun script _ => ∃ process, script = directoryScript dir process := by
  refine ((Follows.log _).bind fun _ => (Follows.execute _ _).bind fun process =>
    follows_awaitSuccess _ _ _).mono ?_
  rintro script _ ⟨_, _, _, rfl, ⟨_, process, _, rfl, rfl, rfl⟩, rfl⟩
  exact ⟨process, rfl⟩

/-- The script for a command's output, once that is claimed. -/
lemma follows_showOutput (process : ProcessId) :
    Follows (showOutput process) fun script _ =>
      ∃ output, outputScript process (some output)
        = .ask (.takeStdout process) true (fun _ => none) :: script where
  possible := ⟨_, (), {}, rfl⟩
  course es o ht := by
    obtain ⟨output, rest, hrest, rfl⟩ := transcript_stage_call_bind_iff.mp ht
    rcases transcript_run_bind_iff.mp hrest with
      ⟨_, _, last, hlines, hlast, rfl⟩ | ⟨_, hlines, rfl⟩ | ⟨hlines, rfl⟩
    · obtain ⟨rfl, -⟩ := transcript_logAll hlines
      cases hfailure : output.failure with
      | none =>
          rw [hfailure] at hlast
          obtain ⟨rfl, rfl⟩ := transcript_run_pure_iff.mp hlast
          refine .inl ⟨_, (), ⟨output, rfl⟩, .cons ?_ ?_, rfl⟩
          · simp [Step.Succeeds, hfailure]
          · simpa using completes_say (Progress.linesOf output)
      | some text =>
          rw [hfailure] at hlast
          obtain ⟨rfl, rfl⟩ := transcript_run_throw_iff.mp hlast
          refine .inr ⟨_, (), .io text, ⟨output, rfl⟩, ?_, rfl⟩
          rw [List.append_nil]
          exact .here (s := ⟨Progress.linesOf output, .io text⟩) _ (by simp [hfailure])
    · obtain ⟨-, h⟩ := transcript_logAll hlines
      simp at h
    · obtain ⟨-, h⟩ := transcript_logAll hlines
      simp at h

lemma follows_showOutputIfAny (process : ProcessId) :
    Follows (showOutputIfAny process) fun script _ =>
      ∃ output, script = outputScript process output := by
  have hbranch : ∀ claimed : Bool,
      Follows (if claimed then showOutput process else pure ()) fun script _ =>
        ∃ output, outputScript process output
          = .ask (.takeStdout process) claimed (fun _ => none) :: script := by
    rintro (_ | _)
    · refine (Follows.pure ()).mono ?_
      rintro script _ ⟨rfl, -⟩
      exact ⟨none, rfl⟩
    · refine (follows_showOutput process).mono ?_
      rintro script _ ⟨output, houtput⟩
      exact ⟨some output, houtput⟩
  refine ((Follows.call (.takeStdout process)).bind hbranch).mono ?_
  rintro script _ ⟨_, claimed, _, rfl, ⟨output, houtput⟩, rfl⟩
  exact ⟨output, houtput.symm⟩

lemma follows_runInitScript (dir : WorkDir) (text : String) :
    Follows (runInitScript dir text) fun script _ =>
      ∃ process output, script = initRunScript dir text process output := by
  refine ((Follows.log _).bind fun _ => (Follows.putFile _ _).bind fun _ =>
    (Follows.execute _ _).bind fun process => (follows_showOutputIfAny process).bind fun _ =>
    (follows_awaitSuccess _ _ _).bind fun _ => (Follows.putFile _ _).bind fun _ =>
    Follows.log _).mono ?_
  rintro script _ ⟨_, _, _, rfl, ⟨_, _, _, rfl, ⟨_, process, _, rfl, ⟨_, _, _, ⟨output, rfl⟩,
    ⟨_, _, _, rfl, ⟨_, _, _, rfl, rfl, rfl⟩, rfl⟩, rfl⟩, rfl⟩, rfl⟩, rfl⟩
  exact ⟨process, output, by simp [initRunScript, initExecutionScript, markerScript]⟩

lemma follows_runInitOnce (plan : LaunchPlan) (dir : WorkDir) :
    Follows (runInitOnce plan dir) fun script _ =>
      ∃ marked process output, script = initScript plan dir marked process output := by
  unfold runInitOnce initScript
  cases plan.effectiveInitScript with
  | none =>
      refine (Follows.pure _).mono ?_
      rintro script _ ⟨rfl, rfl⟩
      exact ⟨false, 0, none, rfl⟩
  | some text =>
      have hbranch : ∀ marked : Bool,
          Follows (do
              if marked then
                log "Init script already ran, skipping"
                pure .alreadyDone
              else
                runInitScript dir text
                pure .completed : Stage Initialization)
            fun script _ => ∃ process output, script = if marked then
              [.say "Init script already ran, skipping"]
              else initRunScript dir text process output := by
        rintro (_ | _)
        · refine ((follows_runInitScript dir text).bind fun _ => Follows.pure _).mono ?_
          rintro script _ ⟨_, _, _, ⟨process, output, rfl⟩, ⟨rfl, rfl⟩, rfl⟩
          exact ⟨process, output, by simp⟩
        · refine ((Follows.log _).bind fun _ => Follows.pure _).mono ?_
          rintro script _ ⟨_, _, _, rfl, ⟨rfl, rfl⟩, rfl⟩
          exact ⟨0, none, rfl⟩
      refine ((Follows.fileExists _).bind hbranch).mono ?_
      rintro script _ ⟨_, marked, _, rfl, ⟨process, output, rfl⟩, rfl⟩
      exact ⟨marked, process, output, rfl⟩

lemma follows_prepare (plan : LaunchPlan) :
    Follows (prepare plan) fun script prepared =>
      prepared.dir = WorkDir.resolve plan.tmpDir ∧ ∃ a, script = prepareScript plan a := by
  refine ((follows_makeDir _).bind fun _ => (follows_runInitOnce plan _).bind fun _ =>
    Follows.pure _).mono ?_
  rintro script _ ⟨_, _, _, ⟨dirMaker, rfl⟩,
    ⟨_, _, _, ⟨marked, initRun, initOutput, rfl⟩, ⟨rfl, rfl⟩, rfl⟩, rfl⟩
  exact ⟨rfl, { dirMaker, marked, initRun, initOutput }, by simp [prepareScript]⟩

lemma follows_startAgent (plan : LaunchPlan) (dir : WorkDir) :
    Follows (startAgent plan dir) fun script agent =>
      ∃ payload, script = startScript plan dir payload agent := by
  refine ((Follows.orFail _ (.fetch WorkDir.agentFile) id id (fun _ => rfl)
    fun _ _ => transcript_call_iff.mp).bind fun payload => (Follows.putFile _ _).bind fun _ =>
    (Follows.log _).bind fun _ => (Follows.log _).bind fun _ => Follows.execute _ _).mono ?_
  rintro script agent ⟨_, payload, _, rfl, ⟨_, _, _, rfl, ⟨_, _, _, rfl, ⟨_, _, _, rfl, rfl, rfl⟩,
    rfl⟩, rfl⟩, rfl⟩
  exact ⟨payload, rfl⟩

lemma follows_provision (plan : LaunchPlan) :
    Follows (provision plan) fun script agent =>
      ∃ a : Answers, a.agent = agent ∧ script = provisionScript plan a := by
  refine ((follows_prepare plan).bind fun prepared => follows_startAgent plan prepared.dir).mono ?_
  rintro script agent ⟨_, prepared, _, ⟨hdir, a, rfl⟩, ⟨payload, rfl⟩, rfl⟩
  rw [hdir]
  exact ⟨{ a with payload, agent }, rfl, rfl⟩

end AgentLaunch.Attempt
