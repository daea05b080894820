import AgentLaunch.Attempt.Launch
import AgentLaunch.Attempt.Surroundings

/-!
# Rehearsals

A *rehearsal* runs an attempt against scripted surroundings: every collaborator has a list of cues,
one for each call, and a default for when the list is used up.  The remote host keeps its files,
the numbers of its processes and the last channel from one rehearsal to the next; the scripts are
replaced.
-/

namespace AgentLaunch.Rehearsal

open Attempt

/-! ## Scripts -/

/-- A scripted reply, and how long it takes. -/
structure Cue (α : Type) where
  reply : α
  delay : Nat := 0
  deriving Inhabited

/-- Cues for the calls to come; an empty place stands for the default. -/
abbrev Cues (α : Type) := List (Option (Cue α))

structure ProcessScript where
  exitCode : Nat := 0
  output : CommandOutput := {}
  /-- The output can be claimed. -/
  hasStdout : Bool := true
  /-- The input can be claimed. -/
  hasStdin : Bool := true
  waitDelay : Nat := 0
  waitError : Option TransportError := none
  destroyDelay : Nat := 0
  deriving Inhabited

structure Script where
  describe : Cues (Except CloudError InstanceDescription) := []
  credentials : Cues (Except CloudError (Option String)) := []
  decrypt : Cues (Except CloudError Secret) := []
  ping : List (Option PingBehaviour) := []
  execute : Cues (Except TransportError ProcessScript) := []
  putFile : Cues (Except TransportError Unit) := []
  fileExists : Cues (Except TransportError Unit) := []
  fetch : Cues (Except String Bytes) := []
  bind : Cues BindReply := []
  closeDelay : Nat := 0
  deriving Inhabited

/-- The number of cues that a waiting attempt can use up. -/
def Script.patience (s : Script) : Nat :=
  s.describe.length + s.credentials.length + s.decrypt.length + s.ping.length

/-- The next cue of a script, or a default, and the cues after it. -/
def nextCue {α : Type} (cues : Cues α) (default : α) : Cue α × Cues α :=
  match cues with
  | some cue :: rest => (cue, rest)
  | none :: rest => (⟨default, 0⟩, rest)
  | [] => (⟨default, 0⟩, [])

/-! ## Files -/

abbrev FileMap := List (String × Bytes)

namespace FileMap

def contains (files : FileMap) (path : String) : Bool :=
  files.any fun file => file.1 == path

def erase (files : FileMap) (path : String) : FileMap :=
  files.filter fun file => file.1 != path

def insert (files : FileMap) (path : String) (contents : Bytes) : FileMap :=
  (path, contents) :: files.erase path

end FileMap

/-! ## The world -/

/-- What scripted surroundings remember. -/
structure World where
  script : Script := {}
  files : FileMap := []
  /-- The processes started so far, by number. -/
  processes : Array ProcessScript := #[]
  /-- The close hook of the channel that was bound last. -/
  channel : Option CloseHook := none
  deriving Inhabited

namespace World

def process (w : World) (id : ProcessId) : ProcessScript :=
  w.processes.getD id {}

def spawn (w : World) (p : ProcessScript) : ProcessId × World :=
  (w.processes.size, { w with processes := w.processes.push p })

def setProcess (w : World) (id : ProcessId) (p : ProcessScript) : World :=
  { w with processes := w.processes.setIfInBounds id p }

/-- The reply to a call, how long it takes, and the world after it. -/
def answer (w : World) : (c : Call) → c.Reply × Nat × World
  | .describe _ =>
    let (cue, rest) := nextCue w.script.describe (.ok { publicIp := some "10.0.0.5" })
    (cue.reply, cue.delay, { w with script.describe := rest })
  | .encryptedPassword _ =>
    let (cue, rest) := nextCue w.script.credentials (.ok (some "ENCRYPTED"))
    (cue.reply, cue.delay, { w with script.credentials := rest })
  | .decrypt material =>
    let (cue, rest) := nextCue w.script.decrypt (.ok ⟨"plain-" ++ material⟩)
    (cue.reply, cue.delay, { w with script.decrypt := rest })
  | .openSession _ => ((), 0, w)
  | .execute _ _ =>
    let (cue, rest) := nextCue w.script.execute (.ok {})
    let w := { w with script.execute := rest }
    match cue.reply with
    | .error e => (.error e, cue.delay, w)
    | .ok p =>
      let (id, w) := w.spawn p
      (.ok id, cue.delay, w)
  | .putFile path contents =>
    let (cue, rest) := nextCue w.script.putFile (.ok ())
    let w := { w with script.putFile := rest }
    match cue.reply with
    | .error e => (.error e, cue.delay, w)
    | .ok () => (.ok (), cue.delay, { w with files := w.files.insert path contents })
  | .fileExists path =>
    let (cue, rest) := nextCue w.script.fileExists (.ok ())
    let w := { w with script.fileExists := rest }
    (cue.reply.map fun _ => w.files.contains path, cue.delay, w)
  | .closeSession => ((), w.script.closeDelay, w)
  | .wait id =>
    let p := w.process id
    (match p.waitError with | some e => .error e | none => .ok p.exitCode, p.waitDelay, w)
  | .takeStdout id =>
    let p := w.process id
    (p.hasStdout, 0, w.setProcess id { p with hasStdout := false })
  | .takeStdin id =>
    let p := w.process id
    (p.hasStdin, 0, w.setProcess id { p with hasStdin := false })
  | .readOutput id => ((w.process id).output, 0, w)
  | .destroy id => ((), (w.process id).destroyDelay, w)
  | .fetch _ =>
    let (cue, rest) := nextCue w.script.fetch (.ok (Utf8.encode "AGENT-BYTES"))
    (cue.reply, cue.delay, { w with script.fetch := rest })
  | .bind _ =>
    let (cue, rest) := nextCue w.script.bind {}
    (cue.reply, cue.delay, { w with script.bind := rest })
  | .channelReads id => ((w.process id).output, 0, w)
  | .channelFired _ => ((), 0, w)
  | .channelKeeps hook => ((), 0, { w with channel := some hook })

def ping (w : World) : PingBehaviour × World :=
  match w.script.ping with
  | some behaviour :: rest => (behaviour, { w with script.ping := rest })
  | none :: rest => (.answers 0 (.ok true), { w with script.ping := rest })
  | [] => (.answers 0 (.ok true), w)

end World

def surroundings (date : Timestamp) : Surroundings World where
  answer w _ c := w.answer c
  ping w _ := w.ping
  today _ _ := date

/-! ## Rehearsing -/

abbrev Report (α : Type) := Dialogue.Run signature (Scene World) α

/-- Rounds that suffice for the loops of an attempt in a scripted world: those of the plan, and one
for every cue. -/
def rounds (plan : LaunchPlan) (scene : Scene World) : Nat :=
  plan.rounds + scene.memory.script.patience + 2

def rehearse {α : Type} (date : Timestamp) (activity : Activity α) (scene : Scene World) :
    Report α :=
  (surroundings date).run activity scene

def startAndWait (plan : LaunchPlan) (dir : WorkDir) :
    Activity (Except LaunchError (Except TransportError Nat)) := do
  match ← (startAgent plan dir).run with
  | .error e => pure (.error e)
  | .ok process => .ok <$> call (.wait process)

/-- How the close hook of a channel took one more run. -/
structure Closing where
  hadRun : Bool
  effect : Bool
  hasRun : Bool
  deriving DecidableEq, Repr

def closeChannel (hook : CloseHook) : Activity Closing := do
  let (effect, after) ← hook.fire
  call (.channelKeeps after)
  pure ⟨hook.fired, effect, after.fired⟩

end AgentLaunch.Rehearsal
