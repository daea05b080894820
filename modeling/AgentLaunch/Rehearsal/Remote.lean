import AgentLaunch.Rehearsal.Server
import AgentLaunch.Ssh.Session

/-!
# Rehearsing a session

One session with a scripted server, and the processes that have been started in it.

A rehearsal is a list of actions.  Some are operations of the session, and go through the time limit
that these have; others are about one of its processes, which are known by the order in which they
were started.  The output of a process can be read by one party only, and so can its input be
written, as they are claimed first.  What an action needs and cannot have is no error of the
rehearsal: it does nothing then.
-/

namespace AgentLaunch.Rehearsal

open Ssh (Conversation Operation Process Session)

structure Remote where
  server : Server := {}
  session : Session
  /-- The processes, in the order in which they were started. -/
  processes : List Process := []
  /-- The processes whose input has been claimed and not ended. -/
  openInputs : List Nat := []
  deriving Inhabited

inductive RemoteAction where
  | ping
  | fileExists (path : String)
  | putFile (path : String) (contents : Bytes)
  | execute (command : String) (limit : Option Nat)
  | close
  /-- Names the target. -/
  | target
  /-- Lets everything settle that is under way. -/
  | settle
  | wait (process : Nat)
  | destroy (process : Nat)
  /-- Claims the output and reads it to its end. -/
  | readOutput (process : Nat)
  /-- Writes into the input, which is claimed for that, and perhaps ends it. -/
  | writeInput (process : Nat) (bytes : Bytes) (isLast : Bool)
  deriving DecidableEq

inductive RemoteResult where
  | nothing
  | flag (b : Bool)
  | number (n : Nat)
  | bytes (bs : Bytes)
  | target (t : SessionTarget)
  | failure (e : TransportError)
  deriving DecidableEq

namespace Remote

/-- Does what takes no account of the session. -/
def converse {α : Type} (r : Remote) (conversation : Conversation α) : Option α × Remote :=
  let run := Dialogue.run (S := Ssh.signature) Server.respond conversation r.server
  (run.result, { r with server := run.after })

def operate {α : Type} (r : Remote) (operation : Operation α) :
    Except TransportError α × Remote :=
  let run := Dialogue.run (S := Ssh.signature.timed) Server.respondInTime
    (operation r.session) r.server
  match run.result with
  | some (result, session) => (result, { r with server := run.after, session })
  | none => (.error .closed, { r with server := run.after })

/-- Does an operation, and shows its result. -/
def present {α : Type} (r : Remote) (operation : Operation α) (result : α → RemoteResult) :
    RemoteResult × Remote :=
  match r.operate operation with
  | (.ok a, r) => (result a, r)
  | (.error e, r) => (.failure e, r)

def spawn (r : Remote) (command : String) (limit : Option Nat) :
    Except TransportError Nat × Remote :=
  match r.operate (Session.execute command limit) with
  | (.ok process, r) =>
    (.ok r.processes.length, { r with processes := r.processes ++ [process] })
  | (.error e, r) => (.error e, r)

def setProcess (r : Remote) (number : Nat) (p : Process) : Remote :=
  { r with processes := r.processes.set number p }

def wait (r : Remote) (number : Nat) : Except TransportError Nat × Remote :=
  match r.processes[number]? with
  | none => (.error .closed, r)
  | some process =>
    match r.converse process.wait with
    | (some (result, process), r) => (result, r.setProcess number process)
    | (none, r) => (.error .closed, r)

def destroy (r : Remote) (number : Nat) : Remote :=
  match r.processes[number]? with
  | none => r
  | some process => (r.converse process.destroy).2

def takeOutput (r : Remote) (number : Nat) : Bool × Remote :=
  match r.processes[number]? with
  | none => (false, r)
  | some process =>
    let (taken, process) := process.takeOutput
    (taken, r.setProcess number process)

def takeInput (r : Remote) (number : Nat) : Bool × Remote :=
  match r.processes[number]? with
  | none => (false, r)
  | some process =>
    let (taken, process) := process.takeInput
    (taken, r.setProcess number process)

def settle (r : Remote) : Remote :=
  { r with server := r.server.catchUp }

def outputOf (r : Remote) (number : Nat) : Bytes :=
  match r.processes[number]? with
  | none => []
  | some process => r.server.output process.channel

/-- Reads the output of a process to its end, if nobody has claimed it. -/
def readOutput (r : Remote) (number : Nat) : Option Bytes × Remote :=
  let (taken, r) := r.takeOutput number
  if taken then
    let r := r.settle
    (some (r.outputOf number), r)
  else (none, r)

/-- Writes into the input of a process, and perhaps ends it. -/
def writeInput (r : Remote) (number : Nat) (bytes : Bytes) (isLast : Bool) :
    RemoteResult × Remote :=
  let (taken, r) := r.takeInput number
  match r.processes[number]? with
  | none => (.nothing, r)
  | some process =>
    if taken || r.openInputs.contains number then
      let r := { r with openInputs := if isLast then r.openInputs.erase number
        else if taken then number :: r.openInputs else r.openInputs }
      let write := do
        let written ← Ssh.call (.writeInput process.channel bytes)
        if isLast then
          let _ ← Ssh.call (.endInput process.channel)
        pure written
      match r.converse write with
      | (some (.error text), r) => (.failure (.io text), r)
      | (_, r) => (.flag true, r)
    else (.nothing, r)

def perform (r : Remote) : RemoteAction → RemoteResult × Remote
  | .ping => r.present Session.ping .flag
  | .fileExists path => r.present (Session.fileExists path) .flag
  | .putFile path contents => r.present (Session.putFile path contents) fun () => .nothing
  | .execute command limit =>
    match r.spawn command limit with
    | (.ok number, r) => (.number number, r)
    | (.error e, r) => (.failure e, r)
  | .close => r.present Session.close fun () => .nothing
  | .target => (.target r.session.target, r)
  | .settle => (.nothing, r.settle)
  | .wait number =>
    match r.wait number with
    | (.ok code, r) => (.number code, r)
    | (.error e, r) => (.failure e, r)
  | .destroy number => (.nothing, r.destroy number)
  | .readOutput number =>
    match r.readOutput number with
    | (some bytes, r) => (.bytes bytes, r)
    | (none, r) => (.nothing, r)
  | .writeInput number bytes isLast => r.writeInput number bytes isLast

def performAll (r : Remote) : List RemoteAction → List RemoteResult × Remote
  | [] => ([], r)
  | action :: rest =>
    let (result, r) := r.perform action
    let (results, r) := performAll r rest
    (result :: results, r)

end Remote

end AgentLaunch.Rehearsal
