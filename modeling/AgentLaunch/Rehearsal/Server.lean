import AgentLaunch.Ssh.Request
import AgentLaunch.Ssh.Streams

/-!
# A scripted SSH server

The server accepts one password and has a script for every command to come: when to answer it, and
with what.  A command without a script is answered with success, at once or, if it reads its input
to the end, after that.

What a client sends without waiting for a reply is still under way until the client waits for
something: only then does the server *catch up* with it, and its answers arrive.
-/

namespace AgentLaunch.Rehearsal

open Ssh (Call ChannelId ConnectionId Streams.Event)

/-! ## Scripts -/

/-- When a command is answered. -/
inductive Trigger where
  | atOnce
  /-- When the input has ended. -/
  | inputEnd
  /-- When there are so many bytes of input. -/
  | inputBytes (count : Nat)
  | never
  deriving DecidableEq, Repr, Inhabited

inductive Answer where
  | output (bytes : Bytes)
  | diagnostics (bytes : Bytes)
  | exitStatus (code : Nat)
  | endOfOutput
  | close
  /-- Says that the command could not be started. -/
  | failure
  /-- Drops the connection. -/
  | disconnect
  deriving DecidableEq, Repr

/-- The answer that tells of success. -/
def success : List Answer :=
  [.exitStatus 0, .endOfOutput, .close]

structure CommandScript where
  trigger : Trigger := .atOnce
  answer : List Answer := success
  deriving Repr, Inhabited

def readsInput (command : String) : Bool :=
  command.startsWith "powershell"

def CommandScript.usual (command : String) : CommandScript where
  trigger := if readsInput command then .inputEnd else .atOnce

inductive Presence where
  | serving
  /-- Nobody listens. -/
  | absent
  /-- Something that is no SSH server. -/
  | foreign
  deriving DecidableEq, Repr, Inhabited

structure ServerScript where
  presence : Presence := .serving
  /-- The password that is accepted. -/
  password : String := "pw"
  refusesChannels : Bool := false
  /-- The scripts of the commands to come; an empty place stands for none. -/
  commands : List (Option CommandScript) := []
  deriving Inhabited

/-! ## Commands -/

/-- A command on its channel, seen from both ends. -/
structure Command where
  connection : ConnectionId
  /-- The command, once it has been started. -/
  text : Option String := none
  script : CommandScript := {}
  /-- The client's end. -/
  streams : Ssh.Streams.State := {}
  /-- The client reads the output. -/
  hasReader : Bool := true
  /-- Pieces of input that the server has not got yet. -/
  underWay : List Bytes := []
  /-- The client has ended the input. -/
  inputEnding : Bool := false
  /-- The input that the server has got. -/
  received : Bytes := []
  receivedEnd : Bool := false
  answered : Bool := false
  deriving Repr, Inhabited

namespace Command

def isDue (c : Command) : Bool :=
  match c.script.trigger with
  | .atOnce => true
  | .inputEnd => c.receivedEnd
  | .inputBytes count => count ≤ c.received.length
  | .never => false

/-- What a part of an answer is at the client's end. -/
def eventOf (c : Command) : Answer → Ssh.Streams.Event
  | .output bytes => .output bytes (if c.hasReader then bytes.length else 0)
  | .diagnostics bytes => .diagnostics bytes
  | .exitStatus code => .exitStatus code
  | .endOfOutput => .endOfOutput
  | .close => .channelClosed
  | .failure => .otherMessage
  | .disconnect => .channelClosed

def answerIfDue (c : Command) : Command :=
  if !c.answered && c.isDue then
    { c with
      answered := true
      streams := c.streams.run (c.script.answer.map c.eventOf) }
  else c

def receive (c : Command) (bytes : Bytes) : Command :=
  if c.streams.running then
    answerIfDue { c with
      streams := c.streams.step (.input bytes true)
      received := c.received ++ bytes }
  else c

def receiveEnd (c : Command) : Command :=
  if c.streams.running && c.streams.inputOpen then
    answerIfDue { c with
      streams := c.streams.step (.inputEnd true)
      receivedEnd := true }
  else c

def catchUp (c : Command) : Command :=
  if c.text.isSome then
    let c := (c.underWay.foldl receive c.answerIfDue)
    let c := { c with underWay := [] }
    if c.inputEnding then c.receiveEnd else c
  else c

def dropsConnection (c : Command) : Bool :=
  c.answered && c.script.answer.contains .disconnect

def cutOff (c : Command) : Command :=
  { c with streams := c.streams.step .channelClosed }

/-- The input as it was needed for the answer. -/
def awaitedInput (c : Command) : Option Bytes :=
  if c.answered && c.script.trigger ≠ .atOnce then some c.received else none

end Command

/-! ## The server -/

/-- A server with all that has happened there. -/
structure Server where
  script : ServerScript := {}
  /-- The connections so far: whether they still exist. -/
  connections : List Bool := []
  /-- The logins so far: names and passwords. -/
  logins : List (String × String) := []
  /-- The channels so far. -/
  commands : List Command := []
  deriving Inhabited

namespace Server

/-- What a client learns when its pipe to a command has ended. -/
def brokenPipe : String := "broken pipe"

def isConnected (s : Server) (connection : ConnectionId) : Bool :=
  s.connections.getD connection false

def modifyCommand (s : Server) (channel : ChannelId) (f : Command → Command) : Server :=
  { s with commands := s.commands.modify channel f }

def streams (s : Server) (channel : ChannelId) : Ssh.Streams.State :=
  ((s.commands[channel]?).map Command.streams).getD {}

/-- Drops a connection, with all channels on it. -/
def drop (s : Server) (connection : ConnectionId) : Server :=
  { s with
    connections := s.connections.set connection false
    commands := s.commands.map fun c =>
      if c.connection = connection then c.cutOff else c }

/-- Lets everything arrive on a channel that is under way. -/
def catchUpChannel (s : Server) (channel : ChannelId) : Server :=
  match s.commands[channel]? with
  | none => s
  | some before =>
    if s.isConnected before.connection then
      let after := before.catchUp
      let s := s.modifyCommand channel fun _ => after
      if after.dropsConnection then s.drop after.connection else s
    else s

def catchUp (s : Server) : Server :=
  (List.range s.commands.length).foldl catchUpChannel s

/-- The script of the next command, and the server without it. -/
def nextScript (s : Server) (command : String) : CommandScript × Server :=
  match s.script.commands with
  | some script :: rest => (script, { s with script.commands := rest })
  | none :: rest => (.usual command, { s with script.commands := rest })
  | [] => (.usual command, s)

def output (s : Server) (channel : ChannelId) : Bytes :=
  (s.streams channel).delivered

def respond (s : Server) : (c : Call) → c.Reply × Server
  | .connect _ =>
    let s := s.catchUp
    match s.script.presence with
    | .serving => (.ok s.connections.length, { s with connections := s.connections ++ [true] })
    | .absent => (.error (.failed "Connection refused (os error 111)"), s)
    | .foreign => (.error (.failed ""), s)
  | .authenticate connection username password =>
    let s := { s with logins := s.logins ++ [(username, password.expose)] }
    if password.expose = s.script.password then (.ok true, s) else (.ok false, s.drop connection)
  | .isClosed connection => (!s.isConnected connection, s)
  | .openChannel connection =>
    let s := s.catchUp
    if s.script.refusesChannels || !s.isConnected connection then (.error "", s)
    else (.ok s.commands.length, { s with commands := s.commands ++ [{ connection }] })
  | .start channel command _ =>
    let (script, s) := s.nextScript command
    (.ok (), s.modifyCommand channel fun c => { c with text := some command, script })
  | .writeInput channel bytes =>
    if (s.streams channel).running then
      (.ok (), s.modifyCommand channel fun c => { c with underWay := c.underWay ++ [bytes] })
    else (.error brokenPipe, s)
  | .endInput channel => (.ok (), s.modifyCommand channel fun c => { c with inputEnding := true })
  | .dropInput channel => ((), s.modifyCommand channel fun c => { c with inputEnding := true })
  | .dropOutput channel => ((), s.modifyCommand channel fun c => { c with hasReader := false })
  | .awaitEnd channel =>
    let s := s.catchUp
    ((s.streams channel).status, s)
  | .kill channel =>
    ((), s.modifyCommand channel fun c => { c with streams := c.streams.step (.kill true) })
  | .disconnect connection => ((), s.drop connection)

/-- The reply to a request that may have a time limit.  The server always answers in time. -/
def respondInTime (s : Server) : (r : Ssh.signature.timed.Request) →
    Ssh.signature.timed.Reply r × Server
  | .patient request => s.respond request
  | .limited request =>
    let (reply, s) := s.respond request
    (some reply, s)

/-- The commands that have been started: the text of each, and the input that its answer waited
for. -/
def record (s : Server) : List (String × Option Bytes) :=
  s.commands.filterMap fun c => c.text.map fun text => (text, c.awaitedInput)

end Server

end AgentLaunch.Rehearsal
