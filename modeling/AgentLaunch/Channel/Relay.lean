import AgentLaunch.Attempt.Teardown
import AgentLaunch.Text.Utf8

/-!
# Relays

A channel between the controller and the agent is a *relay*: it copies the agent's output to the
controller and the controller's input to the agent.  The direction that ends first ends the
channel; then the relay runs the close hook, and says so if its run had the action.  Others may run
the hook at any time.

The module gives this as a machine.  A state holds how far each direction has got, the hook, and
all that has been done to the outside; the moves are the steps of the two directions, of the relay
itself, and of the hook, and may come in any order.
-/

namespace AgentLaunch.Relay

/-! ## One direction -/

inductive Progress where
  | copying
  /-- Copying has ended; what has been written is still to be pushed out. -/
  | finishing
  | finished
  deriving DecidableEq, Repr

structure Direction where
  read : Bytes := []
  /-- How many of these bytes have been written. -/
  written : Nat := 0
  sourceEnded : Bool := false
  progress : Progress := .copying
  /-- Copying has ended because everything was copied, not because of an error. -/
  complete : Bool := false
  deriving DecidableEq, Repr, Inhabited

inductive Step where
  /-- Some bytes come from the source. -/
  | read (bytes : Bytes)
  /-- At most so many bytes are written. -/
  | write (limit : Nat)
  | sourceEnds
  /-- Reading, writing or the last push fails, which ends copying. -/
  | fail
  /-- Copying ends because there is nothing more to copy. -/
  | complete
  /-- What has been written is pushed out, as far as possible; the target may be shut down. -/
  | finish
  deriving DecidableEq, Repr

inductive Effect where
  | wrote (bytes : Bytes)
  /-- The direction is finished with its target. -/
  | pushed
  deriving DecidableEq, Repr

namespace Direction

/-- What has been read and not yet written. -/
def backlog (d : Direction) : Bytes :=
  d.read.drop d.written

/-- The direction after a step, and what that does to its target.  A step that does not belong to
the progress of the direction changes nothing; copying is complete only if the source has ended and
nothing is left to be written. -/
def step (d : Direction) (s : Step) : Direction × List Effect :=
  match d.progress, s with
  | .copying, .read bytes =>
    if d.sourceEnded then (d, []) else ({ d with read := d.read ++ bytes }, [])
  | .copying, .write limit =>
    let piece := d.backlog.take limit
    ({ d with written := d.written + piece.length }, [.wrote piece])
  | .copying, .sourceEnds => ({ d with sourceEnded := true }, [])
  | .copying, .fail => ({ d with progress := .finishing }, [])
  | .copying, .complete =>
    if d.sourceEnded ∧ d.backlog = [] then
      ({ d with progress := .finishing, complete := true }, [])
    else (d, [])
  | .finishing, .finish => ({ d with progress := .finished }, [.pushed])
  | _, _ => (d, [])

end Direction

/-! ## The relay -/

inductive Phase where
  | copying
  /-- A direction has finished, and the other one has been given up. -/
  | ended
  /-- The relay has run the hook, and waits for that run to return. -/
  | firing (run : Nat)
  /-- The channel is closed, and those who wait for that know it. -/
  | closed
  deriving DecidableEq, Repr

/-- What has been done to the outside. -/
inductive Event where
  /-- To the controller. -/
  | outbound (e : Effect)
  /-- To the agent. -/
  | inbound (e : Effect)
  /-- To the process and the session. -/
  | hook (e : Teardown.Event)
  | log (line : String)
  deriving DecidableEq, Repr

/-- A relay and the hook of its channel. -/
structure State where
  name : String
  phase : Phase := .copying
  outbound : Direction := {}
  inbound : Direction := {}
  hook : Teardown.State := {}
  events : List Event := []
  deriving DecidableEq, Repr, Inhabited

inductive Move where
  | outbound (s : Step)
  | inbound (s : Step)
  /-- The relay runs the hook. -/
  | fire
  /-- The relay's run of the hook has returned, and the relay goes on. -/
  | report
  /-- Something happens to the hook: another run, or progress of a run. -/
  | hook (m : Teardown.Move)
  deriving DecidableEq, Repr

namespace State

def stepOutbound (s : State) (step : Step) : State :=
  let (d, effects) := s.outbound.step step
  { s with
    outbound := d
    phase := if d.progress = .finished then .ended else s.phase
    events := s.events ++ effects.map .outbound }

def stepInbound (s : State) (step : Step) : State :=
  let (d, effects) := s.inbound.step step
  { s with
    inbound := d
    phase := if d.progress = .finished then .ended else s.phase
    events := s.events ++ effects.map .inbound }

def stepHook (s : State) (m : Teardown.Move) : State :=
  let hook := s.hook.step m
  { s with
    hook
    events := s.events ++ (hook.events.drop s.hook.events.length).map .hook }

def closedLine (name : String) : String :=
  "Channel to " ++ name ++ " closed"

/-- The state after the relay's run of the hook has returned.  The relay tells of the end only if
its own run had the action. -/
def reportRun (s : State) (run : Nat) : State :=
  match s.hook.returned? run with
  | some true => { s with phase := .closed, events := s.events ++ [.log (closedLine s.name)] }
  | some false => { s with phase := .closed }
  | none => s

/-- The state after a move.  A move that cannot happen changes nothing. -/
def step (s : State) (m : Move) : State :=
  match s.phase, m with
  | .copying, .outbound step => s.stepOutbound step
  | .copying, .inbound step => s.stepInbound step
  | .ended, .fire => { s.stepHook .start with phase := .firing s.hook.runs.length }
  | .firing run, .report => s.reportRun run
  | .firing run, .hook (.abandon other) => if other = run then s else s.stepHook (.abandon other)
  | _, .hook m => s.stepHook m
  | _, _ => s

def run (s : State) (moves : List Move) : State :=
  moves.foldl step s

/-! ## Usual courses -/

/-- The steps by which some bytes are read and written. -/
def copySteps (bytes : Bytes) : List Step :=
  [.read bytes, .write bytes.length]

/-- The steps by which a direction comes to its end, everything being copied. -/
def endSteps : List Step :=
  [.sourceEnds, .complete, .finish]

/-- The moves by which a run of the hook goes to its end. -/
def teardownMoves (run : Nat) : List Move :=
  [.hook (.advance run), .hook (.advance run)]

def closingMoves (s : State) : List Move :=
  [.fire] ++ teardownMoves s.hook.runs.length ++ [.report]

def firingMoves (s : State) : List Move :=
  [.hook .start] ++ teardownMoves s.hook.runs.length

/-! ## Observing a relay -/

def toController (s : State) : Bytes :=
  s.events.flatMap fun
    | .outbound (.wrote bytes) => bytes
    | _ => []

def toAgent (s : State) : Bytes :=
  s.events.flatMap fun
    | .inbound (.wrote bytes) => bytes
    | _ => []

def inputShut (s : State) : Bool :=
  s.events.contains (.inbound .pushed)

def hookEvents (s : State) : List Teardown.Event :=
  s.events.filterMap fun
    | .hook e => some e
    | _ => none

def lines (s : State) : List String :=
  s.events.filterMap fun
    | .log line => some line
    | _ => none

end State

end AgentLaunch.Relay
