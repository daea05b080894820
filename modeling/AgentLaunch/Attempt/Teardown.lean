/-!
# Closing a channel from several sides

A channel's close hook may be run by several parties at once.  The hook holds one action, ending
the process and then closing the session; the first run takes it, and everybody else finds it
taken.  A run that has the action performs it by itself, outside of any lock, and loses it if it is
given up midway.

The module gives this as a machine: a state with all runs started so far, and the moves that can
happen next.  Which moves happen, in which order, is up to the parties.
-/

namespace AgentLaunch.Teardown

/-- How far a run of the hook has got. -/
inductive RunState where
  /-- It has the action and ends the process. -/
  | destroying
  /-- It has the action and closes the session. -/
  | closing
  /-- It is over; the flag tells whether it had the action. -/
  | returned (effect : Bool)
  /-- It was given up. -/
  | abandoned
  deriving DecidableEq, Repr, Inhabited

inductive Event where
  | destroyStarts
  | destroyEnds
  | closeStarts
  | closeEnds
  deriving DecidableEq, Repr

/-- A hook, all runs of it, and what they have done so far. -/
structure State where
  /-- The action has been taken. -/
  taken : Bool := false
  /-- The runs, in the order in which they were started. -/
  runs : List RunState := []
  events : List Event := []
  deriving DecidableEq, Repr, Inhabited

inductive Move where
  /-- One more run starts. -/
  | start
  /-- What a run is doing comes to its end. -/
  | advance (run : Nat)
  /-- A run is given up. -/
  | abandon (run : Nat)
  deriving DecidableEq, Repr

namespace State

/-- Whether the hook has run, as far as anybody can ask.  It has as soon as the action is taken, and
not only when the teardown is complete. -/
def hasRun (s : State) : Bool :=
  s.taken

/-- One more run.  The first one takes the action and begins with it; any other returns at once,
whether or not the first one is done. -/
def start (s : State) : State :=
  if s.taken then { s with runs := s.runs ++ [.returned false] }
  else
    { taken := true, runs := s.runs ++ [.destroying], events := s.events ++ [.destroyStarts] }

def advance (s : State) (run : Nat) : State :=
  match s.runs[run]? with
  | some .destroying =>
    { s with
      runs := s.runs.set run .closing
      events := s.events ++ [.destroyEnds, .closeStarts] }
  | some .closing =>
    { s with
      runs := s.runs.set run (.returned true)
      events := s.events ++ [.closeEnds] }
  | _ => s

/-- A run is given up in the midst of what it does.  The action stays taken, so nobody completes
it. -/
def abandon (s : State) (run : Nat) : State :=
  match s.runs[run]? with
  | some .destroying => { s with runs := s.runs.set run .abandoned }
  | some .closing => { s with runs := s.runs.set run .abandoned }
  | _ => s

def step (s : State) : Move → State
  | .start => s.start
  | .advance run => s.advance run
  | .abandon run => s.abandon run

def returned? (s : State) (run : Nat) : Option Bool :=
  match s.runs[run]? with
  | some (.returned effect) => some effect
  | _ => none

end State

end AgentLaunch.Teardown
