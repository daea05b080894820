import AgentLaunch.Attempt.Teardown

/-!
# Rehearsing a teardown

One close hook is run several times, one after another, two at once, or with a limit of one
millisecond, while ending the process and closing the session take given times.

The machine beneath is that of `Attempt.Teardown`, whose moves have no times.  A bench adds a clock
and writes down when each event has happened.  A run under a limit is given up in the middle of
whatever it is doing then, and a run that finds the hook taken returns before any time has passed.
-/

namespace AgentLaunch.Rehearsal.Teardown

open AgentLaunch.Teardown

inductive Action where
  | run
  | hasRun
  /-- Goes on with a clone of the hook, which is the same hook. -/
  | clone
  /-- Two runs at once. -/
  | race
  /-- A run that is given up after a millisecond. -/
  | cancel
  deriving DecidableEq, Repr

inductive Result where
  | flag (b : Bool)
  | pair (first second : Bool)
  | nothing
  deriving DecidableEq, Repr

structure Delays where
  destroy : Nat := 0
  close : Nat := 0
  deriving DecidableEq, Repr

/-- A hook at some time, with what has been observed. -/
structure Bench where
  state : State := {}
  clock : Nat := 0
  /-- The events, with their times. -/
  trace : List (Nat × Event) := []
  deriving DecidableEq, Repr

namespace Bench

def move (b : Bench) (m : Move) : Bench :=
  let after := b.state.step m
  let news := after.events.drop b.state.events.length
  { b with state := after, trace := b.trace ++ news.map fun e => (b.clock, e) }

def pass (b : Bench) (duration : Nat) : Bench :=
  { b with clock := b.clock + duration }

def start (b : Bench) : Nat × Bench :=
  (b.state.runs.length, b.move .start)

def finish (delays : Delays) (run : Nat) (b : Bench) : Bench :=
  match b.state.returned? run with
  | some _ => b
  | none => (((b.pass delays.destroy).move (.advance run)).pass delays.close).move (.advance run)

/-- Lets a run go on for a limited time and gives it up then, unless it has returned. -/
def finishWithin (limit : Nat) (delays : Delays) (run : Nat) (b : Bench) : Bench :=
  match b.state.returned? run with
  | some _ => b
  | none =>
    if delays.destroy + delays.close ≤ limit then finish delays run b
    else if delays.destroy ≤ limit then
      ((((b.pass delays.destroy).move (.advance run)).pass (limit - delays.destroy)).move
        (.abandon run))
    else (b.pass limit).move (.abandon run)

def resultOf (b : Bench) (run : Nat) : Result :=
  match b.state.returned? run with
  | some effect => .flag effect
  | none => .nothing

def perform (delays : Delays) (b : Bench) : Action → Result × Bench
  | .hasRun => (.flag b.state.hasRun, b)
  | .clone => (.nothing, b)
  | .run =>
    let (run, b) := b.start
    let b := b.finish delays run
    (b.resultOf run, b)
  | .race =>
    let (first, b) := b.start
    let (second, b) := b.start
    let b := b.finish delays first
    (.pair ((b.state.returned? first).getD false) ((b.state.returned? second).getD false), b)
  | .cancel =>
    let (run, b) := b.start
    let b := b.finishWithin 1 delays run
    (b.resultOf run, b)

def performAll (delays : Delays) (b : Bench) : List Action → List Result × Bench
  | [] => ([], b)
  | action :: rest =>
    let (result, b) := b.perform delays action
    let (results, b) := performAll delays b rest
    (result :: results, b)

end Bench

end AgentLaunch.Rehearsal.Teardown
