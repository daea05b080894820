import AgentLaunch.Address
import AgentLaunch.Dialogue
import AgentLaunch.Error
import AgentLaunch.Progress
import AgentLaunch.Secret
import AgentLaunch.Time.Timestamp

/-!
# What an attempt asks for

One attempt to launch an agent talks to the cloud, to the remote host, to the controller that will
use the agent, and to the clock.  This module lists its requests with their replies.  An attempt has
at most one session with the remote host, so the requests on a session do not name it; processes
are numbered in the order in which they are started.

The requests fall into two groups.  What the attempt does by itself (writing a progress line,
sleeping, looking at the clock, giving up on a ping) takes exactly the time it should.  A *call*
goes to somebody else and takes as long as they like.
-/

namespace AgentLaunch.Attempt

abbrev ProcessId := Nat

/-- What a channel does while it is being bound, before it accepts or refuses. -/
inductive ChannelAction where
  | say (line : String)
  | drain
  | fireHook
  deriving DecidableEq, Repr, Inhabited

/-- The close hook of a channel: which process it ends, and whether it has fired. -/
structure CloseHook where
  process : ProcessId
  fired : Bool := false
  deriving DecidableEq, Repr, Inhabited

/-- How the controller takes an attempt to bind a channel. -/
structure BindReply where
  actions : List ChannelAction := []
  verdict : Except LaunchError Unit := .ok ()
  deriving Inhabited

/-- A request to somebody else. -/
inductive Call where
  | describe (instanceId : String)
  /-- The encrypted password of an instance; none if it has not been generated yet. -/
  | encryptedPassword (instanceId : String)
  /-- The password in some encrypted material. -/
  | decrypt (material : String)
  /-- Makes a session, without any traffic yet. -/
  | openSession (target : SessionTarget)
  /-- Starts a command; the limit is for starting it, not for its run. -/
  | execute (command : String) (limit : Option Nat)
  /-- Writes a file, replacing what is there. -/
  | putFile (path : String) (contents : Bytes)
  | fileExists (path : String)
  | closeSession
  /-- Waits for the end of a process and gives its exit code. -/
  | wait (process : ProcessId)
  /-- Claims the output of a process, if it is still there. -/
  | takeStdout (process : ProcessId)
  /-- Claims the input of a process, if it is still there. -/
  | takeStdin (process : ProcessId)
  /-- Reads the claimed output of a process to its end. -/
  | readOutput (process : ProcessId)
  | destroy (process : ProcessId)
  /-- The file with the agent. -/
  | fetch (name : String)
  /-- Offers the claimed streams of the agent as a channel. -/
  | bind (name : String)
  /-- The channel reads the agent's output. -/
  | channelReads (process : ProcessId)
  /-- The channel learns whether running the close hook had an effect. -/
  | channelFired (effect : Bool)
  /-- The channel keeps its close hook. -/
  | channelKeeps (hook : CloseHook)
  deriving DecidableEq

abbrev Call.Reply : Call → Type
  | .describe _ => Except CloudError InstanceDescription
  | .encryptedPassword _ => Except CloudError (Option String)
  | .decrypt _ => Except CloudError Secret
  | .openSession _ => Unit
  | .execute _ _ => Except TransportError ProcessId
  | .putFile _ _ => Except TransportError Unit
  | .fileExists _ => Except TransportError Bool
  | .closeSession => Unit
  | .wait _ => Except TransportError Nat
  | .takeStdout _ => Bool
  | .takeStdin _ => Bool
  | .readOutput _ => CommandOutput
  | .destroy _ => Unit
  | .fetch _ => Except String Bytes
  | .bind _ => BindReply
  | .channelReads _ => CommandOutput
  | .channelFired _ => Unit
  | .channelKeeps _ => Unit

/-- Everything an attempt asks for. -/
inductive Request where
  | log (line : String)
  /-- Pauses for some milliseconds. -/
  | sleep (duration : Nat)
  /-- The milliseconds on a clock that runs evenly. -/
  | elapsed
  /-- The date and time. -/
  | today
  /-- Whether the remote host accepts commands; none if it has not answered within the budget. -/
  | ping (budget : Nat)
  | call (c : Call)
  deriving DecidableEq

abbrev Request.Reply : Request → Type
  | .log _ => Unit
  | .sleep _ => Unit
  | .elapsed => Nat
  | .today => Timestamp
  | .ping _ => Option (Except TransportError Bool)
  | .call c => c.Reply

abbrev signature : Signature where
  Request := Request
  Reply := Request.Reply

end AgentLaunch.Attempt

namespace AgentLaunch

abbrev Activity := Dialogue Attempt.signature

/-- A part of an attempt that may end it with an error. -/
abbrev Stage := ExceptT LaunchError Activity

namespace Attempt

/-! ## Requests as steps -/

def log (line : String) : Activity Unit :=
  Dialogue.request (S := signature) (.log line)

def warn (message : String) : Activity Unit :=
  log (Progress.warning message)

def sleep (duration : Nat) : Activity Unit :=
  Dialogue.request (S := signature) (.sleep duration)

def elapsed : Activity Nat :=
  Dialogue.request (S := signature) .elapsed

def today : Activity Timestamp :=
  Dialogue.request (S := signature) .today

/-- Asks the remote host whether it accepts commands, and gives up when the budget is spent. -/
def ping (budget : Nat) : Activity (Option (Except TransportError Bool)) :=
  Dialogue.request (S := signature) (.ping budget)

def call (c : Call) : Activity c.Reply :=
  Dialogue.request (S := signature) (.call c)

/-- A dialogue without a result, for a loop that has no rounds left.  An attempt with the rounds of
its plan never gets here. -/
def outOfRounds {α : Type} : Activity α :=
  .unfinished

/-! ## Calls that may end the attempt -/

/-- A result, or an error of its own kind turned into a launch error. -/
def orFail {ε α : Type} (toError : ε → LaunchError) (activity : Activity (Except ε α)) : Stage α :=
  ExceptT.mk do
    match ← activity with
    | .ok a => pure (.ok a)
    | .error e => pure (.error (toError e))

def execute (command : String) (limit : Option Nat) : Stage ProcessId :=
  orFail .transport (call (.execute command limit))

def putFile (path : String) (contents : Bytes) : Stage Unit :=
  orFail .transport (call (.putFile path contents))

def fileExists (path : String) : Stage Bool :=
  orFail .transport (call (.fileExists path))

def wait (process : ProcessId) : Stage Nat :=
  orFail .transport (call (.wait process))

end Attempt

end AgentLaunch
