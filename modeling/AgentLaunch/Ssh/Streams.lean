import AgentLaunch.Text.Utf8

/-!
# The streams of a remote command

A command runs on an SSH channel.  Somebody has to move its output from the channel into a local
pipe, and what is written into a second local pipe to the channel.  This module gives that as a
machine: its state, the events that can happen in any order, and what each of them does.

The machine ends when the channel does, or when the command is killed.  What it leaves is the last
exit status that the server has sent, if there was one.
-/

namespace AgentLaunch.Ssh.Streams

/-- What can happen while a command runs. -/
inductive Event where
  /-- The server sends output.  The local reader takes that many bytes of it, fewer than there are
  if it goes away. -/
  | output (bytes : Bytes) (taken : Nat)
  /-- The server sends diagnostic output. -/
  | diagnostics (bytes : Bytes)
  | exitStatus (code : Nat)
  | endOfOutput
  /-- The server sends something else. -/
  | otherMessage
  /-- The server closes the channel, or the connection ends. -/
  | channelClosed
  /-- A piece of the local input has been read; sending it may fail. -/
  | input (bytes : Bytes) (sent : Bool)
  /-- The local input has ended, or cannot be read; saying so may fail. -/
  | inputEnd (sent : Bool)
  /-- The command is killed or given up; closing the channel may fail. -/
  | kill (sent : Bool)
  deriving DecidableEq, Repr

inductive Sending where
  | data (bytes : Bytes)
  | endOfInput
  | close
  deriving DecidableEq, Repr

structure State where
  running : Bool := true
  /-- Output still goes to the local reader. -/
  outputOpen : Bool := true
  /-- Local input is still read. -/
  inputOpen : Bool := true
  status : Option Nat := none
  /-- What the local reader has been given. -/
  delivered : Bytes := []
  sent : List Sending := []
  deriving DecidableEq, Repr, Inhabited

namespace State

/-- What an event does while the machine runs.  A reader that takes less than there is has gone
away, and gets nothing more; a channel that does not take a piece of the input gets no other. -/
def react (s : State) : Event → State
  | .output bytes taken =>
    if s.outputOpen then
      { s with
        delivered := s.delivered ++ bytes.take taken
        outputOpen := decide (bytes.length ≤ taken) }
    else s
  | .diagnostics _ => s
  | .exitStatus code => { s with status := some code }
  | .endOfOutput => { s with outputOpen := false }
  | .otherMessage => s
  | .channelClosed => { s with running := false }
  | .input bytes sent =>
    if s.inputOpen then
      if sent then { s with sent := s.sent ++ [.data bytes] } else { s with inputOpen := false }
    else s
  | .inputEnd sent =>
    if s.inputOpen then
      { s with
        inputOpen := false
        sent := s.sent ++ (if sent then [.endOfInput] else []) }
    else s
  | .kill sent =>
    { s with
      running := false
      sent := s.sent ++ (if sent then [.close] else []) }

def step (s : State) (e : Event) : State :=
  if s.running then s.react e else s

def run (s : State) (events : List Event) : State :=
  events.foldl step s

end State

end AgentLaunch.Ssh.Streams
