import AgentLaunch.Error
import AgentLaunch.Ssh.Request

/-!
# Processes

A process is the local end of a remote command.  Its output and its input can be claimed once; what
has not been claimed when somebody waits for the end is given up, so that it cannot hold the
command back.  The end can be awaited once; an exit code that has been learned is kept.
-/

namespace AgentLaunch.Ssh

/-- The local end of a remote command.  It keeps account of what can be claimed or awaited only
once. -/
structure Process where
  channel : ChannelId
  /-- The output has not been claimed. -/
  hasOutput : Bool := true
  /-- The input has not been claimed. -/
  hasInput : Bool := true
  /-- Nobody has waited for the end. -/
  awaitable : Bool := true
  /-- The exit code, once it is known. -/
  exitCode : Option Nat := none
  deriving DecidableEq, Repr, Inhabited

namespace Process

/-- Claims the output: whether it was there. -/
def takeOutput (p : Process) : Bool × Process :=
  (p.hasOutput, { p with hasOutput := false })

def takeInput (p : Process) : Bool × Process :=
  (p.hasInput, { p with hasInput := false })

def dropUnclaimed (p : Process) : Conversation Process := do
  if p.hasOutput then call (.dropOutput p.channel)
  if p.hasInput then call (.dropInput p.channel)
  pure { p with hasOutput := false, hasInput := false }

/-- The exit code, once the command has ended.  The end is heard once: whoever waits again gets the
code that was learned then, or an error if there was none. -/
def wait (p : Process) : Conversation (Except TransportError Nat × Process) := do
  match p.exitCode with
  | some code => pure (.ok code, p)
  | none =>
    let p ← p.dropUnclaimed
    if p.awaitable then
      let p := { p with awaitable := false }
      match ← call (.awaitEnd p.channel) with
      | some code => pure (.ok code, { p with exitCode := some code })
      | none => pure (.error (.command "channel closed without exit status"), p)
    else pure (.error .closed, p)

def destroy (p : Process) : Conversation Unit :=
  call (.kill p.channel)

end Process

end AgentLaunch.Ssh
