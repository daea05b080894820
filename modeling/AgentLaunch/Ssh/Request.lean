import AgentLaunch.Dialogue.Limit
import AgentLaunch.Secret
import AgentLaunch.Text.Utf8

/-!
# What an SSH session asks for

The requests of a session to the network and to the machine beneath it, with their replies.
Connections and channels are numbered in the order in which they are made.

Replies are taken as they come, and a reply says no more than the session can know: whether
something was accepted, why it failed, or whether a connection is known to have ended by now.  Where
a limit may end the wait for a reply, a failure of time is told apart from all others, as it becomes
a different error.
-/

namespace AgentLaunch.Ssh

abbrev ConnectionId := Nat

/-- The number of a channel, on which one command runs. -/
abbrev ChannelId := Nat

/-- Why something on the network has not worked. -/
inductive Failure where
  | timedOut
  | failed (text : String)
  deriving DecidableEq, Repr

inductive Call where
  | connect (host : String)
  /-- Logs in; the reply tells whether the password is accepted. -/
  | authenticate (connection : ConnectionId) (username : String) (password : Secret)
  /-- Whether a connection is known to have ended. -/
  | isClosed (connection : ConnectionId)
  | openChannel (connection : ConnectionId)
  /-- Starts a command on a channel; the limit is for sending the request. -/
  | start (channel : ChannelId) (command : String) (limit : Option Nat)
  /-- Writes into the input of a command. -/
  | writeInput (channel : ChannelId) (bytes : Bytes)
  /-- Ends the input of a command. -/
  | endInput (channel : ChannelId)
  /-- Gives up the input of a command, which ends it. -/
  | dropInput (channel : ChannelId)
  /-- Gives up the output of a command. -/
  | dropOutput (channel : ChannelId)
  /-- Waits until the channel of a command has ended; gives the exit status, if one was sent. -/
  | awaitEnd (channel : ChannelId)
  /-- Kills a command, unless it has ended. -/
  | kill (channel : ChannelId)
  /-- Takes leave and ends a connection. -/
  | disconnect (connection : ConnectionId)
  deriving DecidableEq

abbrev Call.Reply : Call → Type
  | .connect _ => Except Failure ConnectionId
  | .authenticate _ _ _ => Except Failure Bool
  | .isClosed _ => Bool
  | .openChannel _ => Except String ChannelId
  | .start _ _ _ => Except Failure Unit
  | .writeInput _ _ => Except String Unit
  | .endInput _ => Except String Unit
  | .dropInput _ => Unit
  | .dropOutput _ => Unit
  | .awaitEnd _ => Option Nat
  | .kill _ => Unit
  | .disconnect _ => Unit

def signature : Signature where
  Request := Call
  Reply := Call.Reply

/-- What a session does between two moments at which nothing can cut it off. -/
abbrev Conversation := Dialogue signature

def call (c : Call) : Conversation c.Reply :=
  Dialogue.request (S := signature) c

end AgentLaunch.Ssh
