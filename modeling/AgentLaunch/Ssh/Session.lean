import AgentLaunch.Ssh.Process
import AgentLaunch.Ssh.Upload
import AgentLaunch.Windows.Argument

/-!
# Sessions

A session with the remote host connects when it is first needed, and again when its connection is
found to have ended.  A failed ping gives the connection up, so that the next operation starts with
a new one.  A closed session stays closed.

Each operation says what it does between session states: from the session before to a dialogue
whose result is the operation's result and the session after.

A ping is the only operation under the time limit as a whole; the limit for connecting and for
logging in is kept by the network.  What a ping leaves undone when its time is up cannot be known,
and this is why its connection is given up.  Closing takes leave of the remote host once, and never
fails.
-/

namespace AgentLaunch.Ssh

structure Session where
  target : SessionTarget
  /-- The limit, in seconds, for connecting, for logging in, and for a ping. -/
  timeoutSecs : Nat := 30
  /-- The connection, once there is one. -/
  connection : Option ConnectionId := none
  closed : Bool := false
  deriving DecidableEq, Inhabited

/-- A part of an operation, which may change the session and may fail. -/
abbrev Step := ExceptT TransportError (StateT Session Conversation)

/-- An operation: what is done, and the session after it. -/
abbrev Operation (α : Type) :=
  Session → Dialogue signature.timed (Except TransportError α × Session)

namespace Session

/-! ## Steps -/

def ask (c : Call) : Step c.Reply :=
  ExceptT.lift (StateT.lift (call c))

def connect : Step ConnectionId := do
  let s ← get
  match ← ask (.connect s.target.host) with
  | .error .timedOut => throw (.timeout ("connecting to " ++ s.target.host))
  | .error (.failed text) => throw (.connect text)
  | .ok connection =>
    match ← ask (.authenticate connection s.target.username s.target.password) with
    | .error .timedOut => throw (.timeout ("authenticating to " ++ s.target.host))
    | .error (.failed text) => throw (.auth text)
    | .ok false => throw (.auth ("password rejected for " ++ s.target.username))
    | .ok true =>
      modify fun s => { s with connection := some connection }
      pure connection

/-- A connection that is not known to have ended.  One that has is let go without taking leave, and
a new one is made. -/
def liveConnection : Step ConnectionId := do
  let s ← get
  if s.closed then throw .closed
  match s.connection with
  | none => connect
  | some connection =>
    if ← ask (.isClosed connection) then
      -- It is forgotten first, as the new connection may fail.
      modify fun s => { s with connection := none }
      connect
    else pure connection

def startCommand (command : String) (limit : Option Nat) : Step Process := do
  let connection ← liveConnection
  match ← ask (.openChannel connection) with
  | .error text => throw (.command ("failed to open channel: " ++ text))
  | .ok channel =>
    match ← ask (.start channel command limit) with
    | .error .timedOut => throw (.timeout ("starting " ++ command))
    | .error (.failed text) => throw (.command ("failed to exec command: " ++ text))
    | .ok () => pure { channel }

/-- Waits for the end of a process that nobody else has, and lets it go.  That comes first even if
there is no exit code to give. -/
def finish (p : Process) : Step Nat := do
  let (result, _) ← ExceptT.lift (StateT.lift p.wait)
  ask (.kill p.channel)
  liftExcept result

def runCommand (command : String) : Step Nat := do
  finish (← startCommand command none)

/-- Writes lines into the input of a command, and ends it. -/
def sendLines (channel : ChannelId) : List Bytes → Step (Except String Unit)
  | [] => ask (.endInput channel)
  | line :: rest => do
    match ← ask (.writeInput channel line) with
    | .ok () => sendLines channel rest
    | .error text => pure (.error text)

/-- Starts the script for a file and gives it the lines.  If one of them cannot be written, the
script is killed and nobody asks how it has ended. -/
def upload (path : String) (contents : Bytes) : Step Unit := do
  let process ← startCommand (Upload.command path) none
  match ← sendLines process.channel (Upload.lines contents) with
  | .error text =>
    ask (.kill process.channel)
    throw (.io text)
  | .ok () =>
    match ← finish { process with hasInput := false } with
    | 0 => pure ()
    | code =>
      throw (.command ("writing " ++ path ++ " failed with exit code " ++ toString code))

/-! ## Operations -/

def patiently {α : Type} (step : Step α) : Operation α :=
  fun s => ((step.run).run s).patient

/-- Whether the remote host accepts commands.  A ping that fails gives the connection up, so that
the next operation starts with a new one. -/
def ping : Operation Bool := fun s => do
  match ← (((runCommand "exit 0").run).run s).limited with
  | some (.ok code, s) => pure (.ok (code == 0), s)
  | some (.error e, s) => pure (.error e, { s with connection := none })
  | none =>
    pure (.error (.timeout ("no answer from " ++ s.target.host ++ " within "
      ++ toString s.timeoutSecs ++ "s")), { s with connection := none })

def execute (command : String) (limit : Option Nat) : Operation Process :=
  patiently (startCommand command limit)

def putFile (path : String) (contents : Bytes) : Operation Unit :=
  patiently (upload path contents)

def lookupCommand (path : String) : String :=
  "if exist " ++ Windows.quote path ++ " (exit 0) else (exit 1)"

def fileExists (path : String) : Operation Bool :=
  patiently do return (← runCommand (lookupCommand path)) == 0

/-- Closes the session, which takes leave of the remote host the first time. -/
def close : Operation Unit :=
  patiently do
    let s ← get
    unless s.closed do
      set { s with closed := true, connection := none }
      if let some connection := s.connection then ask (.disconnect connection)

end Session

end AgentLaunch.Ssh
