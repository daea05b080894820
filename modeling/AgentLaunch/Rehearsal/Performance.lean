import AgentLaunch.Attempt.Surroundings
import AgentLaunch.Channel.Relay
import AgentLaunch.Program
import AgentLaunch.Rehearsal.Remote
import AgentLaunch.Rehearsal.Toolbox

/-!
# Rehearsing the whole program

The program runs from its arguments to its end, with scripted programs beside it, a scripted server
as the remote host, and a file tree.  Nothing takes any time but the program's own pauses.  Once the
channel stands, the controller's input is delivered, then the agent's output as far as it comes, and
then whatever ends the channel happens.
-/

namespace AgentLaunch.Rehearsal

open Attempt (Call CloseHook Scene Surroundings)
open Relay.State (copySteps endSteps)

/-! ## Behind the attempt -/

/-- What the collaborators of a running program remember. -/
structure Site where
  task : Program.Task
  toolbox : Toolbox
  /-- The runs of other programs so far. -/
  runs : List Tool.Invocation := []
  files : FileSystem
  remote : Remote
  /-- The close hook of the channel. -/
  channel : Option CloseHook := none
  deriving Inhabited

namespace Site

/-- Runs an errand that always comes to an end. -/
def errand {α : Type} (s : Site) (e : Errand (Except CloudError α)) :
    Except CloudError α × Site :=
  let report := s.toolbox.run e
  (report.result.getD (.error (.io "")),
    { s with runs := s.runs ++ Toolbox.startedRuns report })

def operate {α : Type} (s : Site) (operation : Ssh.Operation α) :
    Except TransportError α × Site :=
  let (result, remote) := s.remote.operate operation
  (result, { s with remote })

def answer (s : Site) : (c : Call) → c.Reply × Site
  | .describe id => s.errand (Program.describe s.task id)
  | .encryptedPassword id =>
    s.errand (Cloud.encryptedPassword s.task.configuration.aws id)
  | .decrypt material => s.errand (s.task.decryptor.decrypt material)
  | .openSession target =>
    ((), { s with remote := { s.remote with session := Program.session s.task target } })
  | .execute command limit =>
    let (result, remote) := s.remote.spawn command limit
    (result, { s with remote })
  | .putFile path contents => s.operate (Ssh.Session.putFile path contents)
  | .fileExists path => s.operate (Ssh.Session.fileExists path)
  | .closeSession => ((), (s.operate Ssh.Session.close).2)
  | .wait process =>
    let (result, remote) := s.remote.wait process
    (result, { s with remote })
  | .takeStdout process =>
    let (taken, remote) := s.remote.takeOutput process
    (taken, { s with remote })
  | .takeStdin process =>
    let (taken, remote) := s.remote.takeInput process
    (taken, { s with remote })
  | .readOutput process =>
    let remote := s.remote.settle
    ({ chunks := [remote.outputOf process] }, { s with remote })
  | .destroy process => ((), { s with remote := s.remote.destroy process })
  | .fetch _ =>
    ((s.files.read s.task.configuration.agent.payloadPath).mapError FileError.text, s)
  | .bind _ => ({}, s)
  | .channelReads process => ({ chunks := [s.remote.outputOf process] }, s)
  | .channelFired _ => ((), s)
  | .channelKeeps hook => ((), { s with channel := some hook })

def ping (s : Site) : Attempt.PingBehaviour × Site :=
  let (result, s) := s.operate Ssh.Session.ping
  (.answers 0 result, s)

end Site

/-- The surroundings of an attempt of the program, on some date. -/
def siteSurroundings (date : Timestamp) : Surroundings Site where
  answer s _ c :=
    let (reply, s) := s.answer c
    (reply, 0, s)
  ping s _ := s.ping
  today _ _ := date

/-! ## At the console -/

structure ConsoleScript where
  /-- The controller's input. -/
  input : Bytes := []
  /-- The controller's input ends after that. -/
  inputEnds : Bool := false
  /-- The program is told to stop, once the agent's output has come. -/
  signalled : Bool := false
  deriving Repr, Inhabited

/-- The channel at its end, after everything has been copied. -/
def conclude (script : ConsoleScript) (streams : Ssh.Streams.State) (relay : Relay.State) :
    Relay.State :=
  if !streams.running || !streams.outputOpen then
    let relay := relay.run (endSteps.map .outbound)
    relay.run relay.closingMoves
  else if script.signalled then relay.run relay.firingMoves
  else if script.inputEnds then
    let relay := relay.run (endSteps.map .inbound)
    relay.run relay.closingMoves
  else relay

/-- The channel of a process, from the first byte to its end. -/
def serveChannel (script : ConsoleScript) (name : String) (process : Nat) (remote : Remote) :
    Relay.State × Remote :=
  match remote.processes[process]? with
  | none => ({ name }, remote)
  | some p =>
    let remote :=
      if script.input.isEmpty then remote
      else (remote.converse (Ssh.call (.writeInput p.channel script.input))).2
    let remote := remote.settle
    let output := remote.server.output p.channel
    let relay := Relay.State.run { name }
      ((copySteps script.input).map .inbound ++ (copySteps output).map .outbound)
    let relay := conclude script (remote.server.streams p.channel) relay
    let remote := if relay.hookEvents.isEmpty then remote else remote.destroy process
    (relay, (remote.operate Ssh.Session.close).2)

/-! ## The whole program -/

structure Performance where
  dirs : Configuration.UserDirs
  arguments : List String
  files : FileSystem
  toolbox : Toolbox := []
  server : ServerScript := { presence := .absent }
  console : ConsoleScript := {}
  today : Timestamp
  deriving Inhabited

structure PerformanceReport where
  exitCode : Nat
  output : Bytes := []
  diagnostics : String := ""
  runs : List Tool.Invocation := []
  files : FileSystem
  server : Server := {}
  deriving Inhabited

namespace Performance

def linesOf {α : Type} (report : Dialogue.Run Attempt.signature (Scene Site) α) : List String :=
  report.exchanges.filterMap fun
    | ⟨_, .log line, _⟩ => some line
    | _ => none

def printed (lines : List String) : String :=
  String.join (lines.map (· ++ "\n"))

/-- The part of a rehearsal that has a task. -/
def perform (p : Performance) (files : FileSystem) (task : Program.Task) : PerformanceReport :=
  let planning := p.toolbox.run (Program.planOf task p.today)
  let runs := Toolbox.startedRuns planning
  match planning.result with
  | none => { exitCode := 1, runs, files }
  | some (.error e) =>
    let ending := e.ending
    { exitCode := ending.exitCode, diagnostics := ending.diagnostics, runs, files }
  | some (.ok plan) =>
    let remote : Remote := {
      server := { script := p.server }
      session := Program.session task ⟨"", "", {}, false⟩ }
    let site : Site := { task, toolbox := p.toolbox, runs, files, remote }
    let rounds := plan.rounds + p.server.commands.length + 2
    let report := (siteSurroundings p.today).run (Attempt.launch plan rounds) { memory := site }
    let site := report.after.memory
    let lines := linesOf report
    match report.result, site.channel with
    | some .channelEstablished, some hook =>
      let (relay, remote) := serveChannel p.console plan.displayName hook.process site.remote
      { exitCode := Program.exitCode .channelEstablished
        output := relay.toController
        diagnostics := printed (lines ++ relay.lines)
        runs := site.runs, files, server := remote.server }
    | outcome, _ =>
      { exitCode := Program.exitCode (outcome.getD (.aborted ""))
        diagnostics := printed lines
        runs := site.runs, files, server := site.remote.server }

def rehearse (p : Performance) : PerformanceReport :=
  match Program.prepare p.dirs p.arguments p.files with
  | (.ends ending, files) =>
    { exitCode := ending.exitCode, output := Utf8.encode ending.output,
      diagnostics := ending.diagnostics, files }
  | (.begins task, files) => p.perform files task

end Performance

end AgentLaunch.Rehearsal
