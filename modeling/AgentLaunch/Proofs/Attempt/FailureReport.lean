import AgentLaunch.Proofs.Attempt.Failures
import AgentLaunch.Rehearsal.World

/-!
# Where an attempt that fails says why

An attempt that runs out of time says so at its end, and an aborted one ends with a line about its
error, with one exception: nothing is said about a command that has failed, since that is told on
the spot, with the status it has ended with.  A channel can refuse the agent with such an error,
too, and then nobody tells it.

* `Tells` — the ways in which the error of an aborted attempt is told, and the one in which it is
  not.
* `provisionScript_tells` — up to a started agent, every setback is told.
* **`launch_saysWhy`** — every attempt that fails ends in one of these ways.

The last line is what counts, so the lines of an attempt are followed from its end.  A command that
has to succeed writes its complaint as the last thing before the attempt is given up, and
`Stops.tells_status` shows that nothing is written in between; it is used for each of the two
commands that an attempt runs as helpers.  All other errors are told by the farewell.

The constructor `notAtAll` of `Tells` cannot be left out.  The error of a channel that refuses the
agent is passed on as it is, and if it is of the kind that belongs to a command, the farewell takes
it to have been told already.  `refused_untold` is a run of this kind: its last line is the
announcement of the agent, and the reason is in none of its lines.
-/

namespace AgentLaunch

/-- Errors that are told at the end of an attempt: all, except those of commands. -/
def LaunchError.ToldAtEnd : LaunchError → Prop
  | .commandFailed _ _ => False
  | _ => True

namespace Attempt

open Dialogue

lemma farewell_of_toldAtEnd {e : LaunchError} (h : e.ToldAtEnd) :
    farewell e = [said ("Launch failed: " ++ e.message)] := by
  cases e with
  | commandFailed => exact h.elim
  | _ => rfl

lemma WaitFailure.toldAtEnd {plan : LaunchPlan} {e : LaunchError} (h : WaitFailure plan e) :
    e.ToldAtEnd := by
  cases h <;> trivial

/-! ## Commands that tell their status -/

/-- The last line that has been written. -/
def lastLine? (es : List Event) : Option String :=
  (logged es).getLast?

/-- The commands that have to succeed before the agent is started: what runs, what its error calls
it, and how the line about its status begins. -/
inductive Helper (plan : LaunchPlan) : String → String → String → Prop where
  | makeDir :
      Helper plan (makeDirCommand (WorkDir.resolve plan.tmpDir)) "creating tmp directory"
        "Creating tmpdir failed="
  | init :
      Helper plan
        (runBatchCommand ((WorkDir.resolve plan.tmpDir).join WorkDir.initScriptFile))
        "init script" "init script failed: exit code="

/-- A command has been run, has failed, and the last line tells its status. -/
structure TellsStatus (command complaint : String) (exitCode : Nat) (es : List Event) : Prop where
  ran : ∃ process, called (.execute command none) (.ok process) ∈ es
    ∧ called (.wait process) (.ok exitCode) ∈ es
  failed : exitCode ≠ 0
  lastLine : lastLine? es = some (complaint ++ toString exitCode)

section Commands

variable {plan : LaunchPlan} {command step complaint : String} {exitCode : Nat}
  {es es' : List Event} {e : LaunchError}

lemma lastLine?_append {line : String} (h : lastLine? es' = some line) (es : List Event) :
    lastLine? (es ++ es') = some line := by
  unfold lastLine? at *
  rw [logged_append, List.getLast?_append, h]
  rfl

lemma lastLine?_append_said (es : List Event) (line : String) :
    lastLine? (es ++ [said line]) = some line :=
  lastLine?_append rfl es

lemma TellsStatus.append_left (h : TellsStatus command complaint exitCode es') (es : List Event) :
    TellsStatus command complaint exitCode (es ++ es') := by
  obtain ⟨process, hexecute, hwait⟩ := h.ran
  exact ⟨⟨process, List.mem_append_right _ hexecute, List.mem_append_right _ hwait⟩, h.failed,
    lastLine?_append h.lastLine es⟩

lemma TellsStatus.append_called (h : TellsStatus command complaint exitCode es) (c : Call)
    (reply : c.Reply) : TellsStatus command complaint exitCode (es ++ [called c reply]) := by
  obtain ⟨process, hexecute, hwait⟩ := h.ran
  refine ⟨⟨process, List.mem_append_left _ hexecute, List.mem_append_left _ hwait⟩, h.failed, ?_⟩
  rw [lastLine?, logged_append, logged_called, logged_nil, List.append_nil]
  exact h.lastLine

/-- **A command that has to succeed tells why it has not**, and whatever else goes wrong on the way
is left to the end. -/
lemma Stops.tells_status {first middle : List Step} {process : ProcessId}
    (hfirst : ∀ step ∈ first, step.FailsWith LaunchError.ToldAtEnd)
    (hmiddle : ∀ step ∈ middle, step.FailsWith LaunchError.ToldAtEnd)
    (h : Stops (first ++ .ask (.execute command none) (.ok process) (failing .transport) :: middle
      ++ [awaitStep process step complaint]) es e) :
    e.ToldAtEnd
      ∨ ∃ exitCode, e = .commandFailed step exitCode
        ∧ TellsStatus command complaint exitCode es := by
  rcases h.append_cases with hstop | ⟨es₁, es₂, hdone, hstop, rfl⟩
  · refine .inl (hstop.of_failsWith fun step hstep => ?_)
    rcases List.mem_append.mp hstep with hstep | hstep
    · exact hfirst step hstep
    · rcases List.mem_cons.mp hstep with rfl | hstep
      · exact error_of_failing .transport fun _ => trivial
      · exact hmiddle step hstep
  · obtain ⟨reply, s, hs, rfl, rfl⟩ := stops_ask_iff.mp hstop
    cases reply with
    | error cause =>
        obtain rfl := Option.some.inj hs
        exact .inl trivial
    | ok exitCode =>
        obtain ⟨hexit, hs⟩ := Option.ite_none_left_eq_some.mp hs
        obtain rfl := Option.some.inj hs
        have hexecute : called (.execute command none) (.ok process) ∈ es₁ := by
          rw [hdone.2]
          exact List.mem_map.mpr ⟨.ask _ _ _, List.mem_append_right _ List.mem_cons_self, rfl⟩
        refine .inr ⟨exitCode, rfl, ⟨process, ?_, ?_⟩, hexit, ?_⟩
        · exact List.mem_append_left _ hexecute
        · exact List.mem_append_right _ List.mem_cons_self
        · exact lastLine?_append rfl es₁

end Commands

/-! ## On the way to a started agent -/

/-- Such a command has failed and told its status. -/
def TellsHelper (plan : LaunchPlan) (es : List Event) (e : LaunchError) : Prop :=
  ∃ command step complaint exitCode, Helper plan command step complaint
    ∧ e = .commandFailed step exitCode ∧ TellsStatus command complaint exitCode es

section Provision

variable {plan : LaunchPlan} {a : Answers} {es es' : List Event} {e : LaunchError}

lemma TellsHelper.append_left (h : TellsHelper plan es' e) (es : List Event) :
    TellsHelper plan (es ++ es') e := by
  obtain ⟨command, step, complaint, exitCode, hhelper, he, hstatus⟩ := h
  exact ⟨command, step, complaint, exitCode, hhelper, he, hstatus.append_left es⟩

lemma failsWith_startScript (dir : WorkDir) (payload : Bytes) (agent : ProcessId) :
    ∀ step ∈ startScript plan dir payload agent, step.FailsWith LaunchError.ToldAtEnd := by
  simp only [startScript, uploadScript, agentStep, List.forall_mem_append, List.forall_mem_cons]
  refine ⟨⟨?_, ?_, trivial, trivial, by simp⟩, ?_, by simp⟩
  all_goals exact error_of_failing _ fun _ => trivial

lemma directoryScript_tells {process : ProcessId}
    (h : Stops (directoryScript (WorkDir.resolve plan.tmpDir) process) es e) :
    e.ToldAtEnd ∨ TellsHelper plan es e := by
  have hscript : directoryScript (WorkDir.resolve plan.tmpDir) process
      = [.say "Creating tmp directory if it does not exist"]
        ++ .ask (.execute (makeDirCommand (WorkDir.resolve plan.tmpDir)) none) (.ok process)
          (failing .transport) :: []
        ++ [awaitStep process "creating tmp directory" "Creating tmpdir failed="] := rfl
  rw [hscript] at h
  refine (h.tells_status (by simp [Step.FailsWith]) (by simp)).imp_right ?_
  rintro ⟨exitCode, he, hstatus⟩
  exact ⟨_, _, _, exitCode, .makeDir, he, hstatus⟩

lemma initExecutionScript_tells {text : String} {process : ProcessId}
    {output : Option CommandOutput}
    (h : Stops (initExecutionScript (WorkDir.resolve plan.tmpDir) text process output) es e) :
    e.ToldAtEnd ∨ TellsHelper plan es e := by
  have hscript : initExecutionScript (WorkDir.resolve plan.tmpDir) text process output
      = [.say "Executing init script",
          .ask (.putFile ((WorkDir.resolve plan.tmpDir).join WorkDir.initScriptFile)
            (Utf8.encode text)) (.ok ()) (failing .transport)]
        ++ .ask (.execute (runBatchCommand
            ((WorkDir.resolve plan.tmpDir).join WorkDir.initScriptFile)) none) (.ok process)
          (failing .transport) :: outputScript process output
        ++ [awaitStep process "init script" "init script failed: exit code="] := rfl
  rw [hscript] at h
  refine (h.tells_status ?_ (failsWith_outputScript (fun _ => trivial) _ _)).imp_right ?_
  · simp only [List.forall_mem_cons]
    exact ⟨trivial, error_of_failing _ fun _ => trivial, by simp⟩
  · rintro ⟨exitCode, he, hstatus⟩
    exact ⟨_, _, _, exitCode, .init, he, hstatus⟩

lemma initScript_tells {marked : Bool} {process : ProcessId} {output : Option CommandOutput}
    (h : Stops (initScript plan (WorkDir.resolve plan.tmpDir) marked process output) es e) :
    e.ToldAtEnd ∨ TellsHelper plan es e := by
  unfold initScript at h
  cases htext : plan.effectiveInitScript with
  | none =>
      rw [htext] at h
      exact absurd h not_stops_nil
  | some text =>
      rw [htext] at h
      dsimp only at h
      cases h with
      | here reply hs => exact .inl (error_of_failing _ (fun _ => trivial) reply _ hs)
      | later _ h =>
          refine Or.imp_right (fun hhelper => TellsHelper.append_left hhelper [_]) ?_
          cases marked with
          | true => exact .inl (h.of_failsWith (by simp [Step.FailsWith]))
          | false =>
              rw [if_neg (by simp)] at h
              rcases h.append_cases with hstop | ⟨es₁, es₂, -, hstop, rfl⟩
              · exact initExecutionScript_tells hstop
              · refine .inl (hstop.of_failsWith ?_)
                simp only [markerScript, List.forall_mem_cons]
                exact ⟨error_of_failing _ fun _ => trivial, trivial, by simp⟩

/-- **Up to a started agent, every setback is told**: by the command that has failed, or else at the
end. -/
lemma provisionScript_tells (h : Stops (provisionScript plan a) es e) :
    e.ToldAtEnd ∨ TellsHelper plan es e := by
  rcases h.append_cases with hprepare | ⟨es₁, es₂, -, hstart, rfl⟩
  · rcases hprepare.append_cases with hdirectory | ⟨es₁, es₂, -, hinit, rfl⟩
    · exact directoryScript_tells hdirectory
    · exact (initScript_tells hinit).imp_right fun hhelper => hhelper.append_left es₁
  · exact .inl (hstart.of_failsWith (failsWith_startScript _ _ _))

end Provision

/-! ## Whole attempts -/

namespace ChannelAction

/-- What a channel says while it is being bound. -/
def line? : ChannelAction → Option String
  | .say line => some line
  | _ => none

end ChannelAction

/-- The line of a request. -/
def Request.line? : Request → Option String
  | .log line => some line
  | _ => none

/-- The line that announces the agent. -/
def launchLine (plan : LaunchPlan) : String :=
  "Launching agent: " ++ (AgentCommand.assemble plan (WorkDir.resolve plan.tmpDir)).line

/-- How an aborted attempt tells its error. -/
inductive Tells (plan : LaunchPlan) (es : List Event) : LaunchError → Prop where
  /-- The last line tells the error. -/
  | atEnd {e : LaunchError} (he : e.ToldAtEnd)
      (hlast : lastLine? es = some ("Launch failed: " ++ e.message)) : Tells plan es e
  /-- The last line tells the status of the command that has failed. -/
  | byCommand {command step complaint : String} {exitCode : Nat}
      (hhelper : Helper plan command step complaint)
      (hstatus : TellsStatus command complaint exitCode es) :
      Tells plan es (.commandFailed step exitCode)
  /-- A channel has refused the agent with the error of a command.  After the announcement of the
  agent there is nothing but what the channel has said by itself. -/
  | notAtAll {channel : BindReply} {step : String} {exitCode : Nat}
      (hbind : called (.bind plan.displayName) channel ∈ es)
      (hrefused : channel.verdict = .error (.commandFailed step exitCode))
      (hlines : ∃ before, logged es
        = before ++ launchLine plan :: channel.actions.filterMap ChannelAction.line?) :
      Tells plan es (.commandFailed step exitCode)

/-- What a failed attempt ends with. -/
structure SaysWhy (plan : LaunchPlan) (es : List Event) (o : Option Outcome) : Prop where
  timedOut : ∀ secs, o = some (.timedOut secs) →
    lastLine? es = some (LaunchError.timeout secs).message
  aborted : ∀ reason, o = some (.aborted reason) →
    ∃ e : LaunchError, reason = e.message ∧ Tells plan es e

section Attempts

variable {plan : LaunchPlan} {rounds : Nat} {es es' : List Event} {e : LaunchError}

lemma Tells.append_left (h : Tells plan es' e) (es : List Event) : Tells plan (es ++ es') e := by
  cases h with
  | atEnd he hlast => exact .atEnd he (lastLine?_append hlast es)
  | byCommand hhelper hstatus => exact .byCommand hhelper (hstatus.append_left es)
  | notAtAll hbind hrefused hlines =>
      obtain ⟨before, hbefore⟩ := hlines
      refine .notAtAll (List.mem_append_right _ hbind) hrefused ⟨logged es ++ before, ?_⟩
      rw [logged_append, hbefore, List.append_assoc]

/-- An attempt that ends with a farewell. -/
lemma Tells.farewell (he : e.ToldAtEnd) (es : List Event) : Tells plan (es ++ farewell e) e := by
  rw [farewell_of_toldAtEnd he]
  exact .atEnd he (lastLine?_append_said es _)

lemma logged_eq_filterMap_requests (es : List Event) :
    logged es = (requests es).filterMap Request.line? := by
  induction es with
  | nil => rfl
  | cons x es ih =>
      obtain ⟨request, reply⟩ := x
      cases request with
      | log line => exact congrArg (line :: ·) ih
      | _ => exact ih

lemma filterMap_line?_channelRequests (agent : ProcessId) (fired : Bool)
    (actions : List ChannelAction) :
    (channelRequests agent fired actions).filterMap Request.line?
      = actions.filterMap ChannelAction.line? := by
  induction actions generalizing fired with
  | nil => rfl
  | cons action actions ih =>
      cases action with
      | say line => exact congrArg (line :: ·) (ih fired)
      | drain => exact ih fired
      | fireHook => cases fired <;> exact ih true

/-- After an agent has been refused, only the channel has something to say. -/
lemma logged_of_refused {agent : ProcessId} {name : String} {channel : BindReply}
    (hrefused : channel.verdict = .error e)
    (hes : requests es = requestsAfterBind name agent channel) :
    logged es = channel.actions.filterMap ChannelAction.line? := by
  have hverdict : (requestsAfterVerdict name ⟨agent, channel.actions.contains .fireHook⟩
      channel.verdict).filterMap Request.line? = [] := by
    rw [hrefused]
    show (if _ then _ else _ : List Request).filterMap _ = []
    split_ifs <;> rfl
  rw [logged_eq_filterMap_requests, hes, requestsAfterBind, List.filterMap_append,
    filterMap_line?_channelRequests, hverdict, List.append_nil]

/-- The announcement of the agent is the last line before it is offered. -/
lemma logged_provisionScript {a : Answers} (h : Completes (provisionScript plan a) es) :
    ∃ before, logged es = before ++ [launchLine plan] := by
  obtain ⟨es₁, es₂, -, ⟨-, rfl⟩, rfl⟩ := h.append_cases
  refine ⟨logged es₁ ++ [WorkDir.agentFile ++ " sent remotely. Bootstrapping it"], ?_⟩
  rw [logged_append, List.append_assoc]
  rfl

lemma HandsOver.tells {agent : ProcessId} {before : List String}
    (h : HandsOver agent plan.displayName es' (.error e))
    (hbefore : logged es = before ++ [launchLine plan]) :
    Tells plan (es ++ (es' ++ farewell e)) e := by
  generalize hr : (Except.error e : Except LaunchError Unit) = r at h
  rw [← List.append_assoc]
  by_cases he : e.ToldAtEnd
  · exact .farewell he (es ++ es')
  · cases e with
    | commandFailed step exitCode =>
        cases h with
        | noStreams => cases hr
        | offered channel hrest =>
            refine .notAtAll ?_ hr.symm ⟨before, ?_⟩
            · simp
            · rw [← logged_of_refused hr.symm hrest]
              simp [hbefore, farewell]
    | _ => exact absurd trivial he

lemma UsesSession.tells {reason : String} {outcome : Outcome} (h : UsesSession plan es outcome)
    (houtcome : outcome = .aborted reason) :
    ∃ e : LaunchError, reason = e.message ∧ Tells plan es e := by
  cases h with
  | @notProvisioned a es e hstop =>
      obtain rfl := Outcome.aborted.inj houtcome
      refine ⟨e, rfl, ?_⟩
      rw [List.append_cons]
      rcases provisionScript_tells hstop with he | ⟨_, _, _, _, hhelper, rfl, hstatus⟩
      · exact .farewell he _
      · rw [farewell, List.append_nil]
        exact .byCommand hhelper (hstatus.append_called _ _)
  | @provisioned a es es' r hdone hhand =>
      cases r with
      | ok => cases houtcome
      | error e =>
          obtain rfl := Outcome.aborted.inj houtcome
          obtain ⟨before, hbefore⟩ := logged_provisionScript hdone
          exact ⟨e, rfl, hhand.tells hbefore⟩

lemma UsesSession.ne_timedOut {outcome : Outcome} (h : UsesSession plan es outcome) (secs : Nat) :
    outcome ≠ .timedOut secs := by
  cases h with
  | notProvisioned => simp
  | @provisioned _ _ _ r => cases r <;> simp [outcomeOf]

/-- **A failed attempt says why.** -/
lemma LaunchCourse.saysWhy {o : Option Outcome} (h : LaunchCourse plan rounds es o) :
    SaysWhy plan es o := by
  cases h with
  | unfinished => exact ⟨nofun, nofun⟩
  | concluded hwait hconcludes =>
      constructor
      case timedOut =>
        intro secs ho
        obtain rfl := Option.some.inj ho
        cases hconcludes with
        | timedOut => exact lastLine?_append_said _ _
        | connected huse => exact absurd rfl (huse.ne_timedOut secs)
      case aborted =>
        intro reason ho
        obtain rfl := Option.some.inj ho
        generalize houtcome : Outcome.aborted reason = outcome at hconcludes
        cases hconcludes with
        | timedOut => cases houtcome
        | @failed e he =>
            obtain rfl := Outcome.aborted.inj houtcome
            exact ⟨e, rfl, .farewell hwait.failure.toldAtEnd _⟩
        | connected huse =>
            obtain ⟨e, hreason, htells⟩ := huse.tells houtcome.symm
            exact ⟨e, hreason, htells.append_left _⟩

/-- **Every attempt that fails says why**, unless a channel refuses its agent with the error of a
command. -/
theorem launch_saysWhy {σ : Type} (plan : LaunchPlan) (rounds : Nat) (world : Surroundings σ)
    (scene : Scene σ) :
    SaysWhy plan (world.run (launch plan rounds) scene).events
      (world.run (launch plan rounds) scene).result :=
  (transcript_launch (world.run_transcript (launch plan rounds) scene)).saysWhy

/-- A plan with nothing but what it needs. -/
def plainPlan : LaunchPlan where
  instanceId := "i-0abc"
  createdAt := ⟨0, 0, 0⟩

/-- A host whose channel refuses the agent with the error of a command. -/
def refusingHost : Rehearsal.World where
  script := { bind := [some { reply := { verdict := .error (.commandFailed "bind" 3) } }] }

/-- The attempt is aborted, the announcement of the agent is its last line, and nothing tells
why. -/
theorem refused_untold :
    let run := (Rehearsal.surroundings ⟨20000, 0, 0⟩).run (launch plainPlan 2)
      { memory := refusingHost }
    run.result = some (.aborted "bind failed with exit code 3")
      ∧ lastLine? run.events = some (launchLine plainPlan)
      ∧ launchLine plainPlan
        = "Launching agent: java -jar C:\\Windows\\Temp\\agent.jar -workDir C:\\Windows\\Temp\\"
      ∧ "Launch failed: bind failed with exit code 3" ∉ logged run.events
      ∧ "Creating tmpdir failed=3" ∉ logged run.events
      ∧ "init script failed: exit code=3" ∉ logged run.events := by
  intro run
  have hlines : logged run.events = [
      "i-0abc booted at 1970-01-01 00:00:00 UTC",
      "Connecting to (10.0.0.5) as Administrator",
      "Connected to i-0abc.",
      "Creating tmp directory if it does not exist",
      "agent.jar sent remotely. Bootstrapping it",
      "Launching agent: java -jar C:\\Windows\\Temp\\agent.jar -workDir C:\\Windows\\Temp\\"] := by
    rfl
  have hline : launchLine plainPlan
      = "Launching agent: java -jar C:\\Windows\\Temp\\agent.jar -workDir C:\\Windows\\Temp\\" := by
    rfl
  refine ⟨by rfl, ?_, hline, ?_, ?_, ?_⟩
  · rw [lastLine?, hlines, hline]
    rfl
  all_goals
    rw [hlines]
    decide

end Attempts

end Attempt

end AgentLaunch
