import AgentLaunch.Attempt.Resolution

/-!
# Waiting for the management service

`establish` repeats resolution passes until there is a session, and then probes the session until
the service behind it is ready.  Both loops share one deadline and pause between two passes.  A
service that answers on an instance which may still be booting has to answer again after a pause,
because services come and go while Windows starts.

The loops get a number of rounds.  With a retry interval above zero the deadline ends them first if
that number is `LaunchPlan.rounds`.
-/

namespace AgentLaunch

/-- Rounds that suffice for each loop of an attempt: every round but the last one pauses for the
retry interval, and none starts after the deadline. -/
def LaunchPlan.rounds (plan : LaunchPlan) : Nat :=
  plan.deadline / plan.retryInterval + 2

namespace Attempt

/-! ## The deadline -/

/-- When the attempt started, and how long it may wait. -/
structure Deadline where
  start : Nat
  limit : Nat
  deriving DecidableEq, Repr

namespace Deadline

/-- The time waited, if that is longer than allowed.  Who has waited for exactly the limit may go
on. -/
def overrun? (d : Deadline) : Activity (Option Nat) := do
  let waited := (← elapsed) - d.start
  pure (if d.limit < waited then some waited else none)

def remaining (d : Deadline) : Activity Nat := do
  pure (d.limit - ((← elapsed) - d.start))

end Deadline

def timedOut (waited : Nat) : LaunchError :=
  .timeout (waited / 1000)

/-! ## From nothing to a session -/

/-- Repeats resolution passes until one opens a session.  The deadline is looked at before every
pass, and there is a pause after every pass but the last. -/
def resolve (plan : LaunchPlan) (deadline : Deadline) : Nat → Stage SessionTarget
  | 0 => ExceptT.lift outOfRounds
  | rounds + 1 => do
    match ← deadline.overrun? with
    | some waited => throw (timedOut waited)
    | none =>
      match ← resolutionPass plan with
      | some target => pure target
      | none =>
        sleep plan.retryInterval
        resolve plan deadline rounds

/-! ## From a session to a ready one -/

/-- One ping, cut off at the deadline.  No answer and an error count as no. -/
def probe (deadline : Deadline) : Activity Bool := do
  match ← ping (← deadline.remaining) with
  | some (.ok reachable) => pure reachable
  | _ => pure false

inductive Readiness where
  | ready
  /-- Not ready; the flag tells whether the service has had its pause to become stable. -/
  | waiting (stabilized : Bool)
  deriving DecidableEq, Repr

/-- Lets a service that has just answered become stable, and probes it again.  The pause counts as
made whatever the second probe finds out. -/
def stabilize (plan : LaunchPlan) (deadline : Deadline) : Activity Readiness := do
  log ("Management service responded. Waiting for it to stabilize on " ++ plan.displayName)
  sleep plan.bootDelay
  log ("Management service should now be ok on " ++ plan.displayName)
  if ← probe deadline then
    pure .ready
  else
    log ("Management service not yet up. Sleeping " ++ secondsText plan.retryInterval ++ ".")
    pure (.waiting true)

/-- One pass with an open session.  The first yes is taken as it is if the service counts as stable,
unless the instance may have been restarted; otherwise it has to be repeated after a pause. -/
def probingPass (plan : LaunchPlan) (deadline : Deadline) (stabilized : Bool) :
    Activity Readiness := do
  if ← probe deadline then
    -- For a restarted instance the flag makes no difference: every yes is followed by a pause.
    if !stabilized || plan.stopOnTerminate then stabilize plan deadline
    else pure .ready
  else
    log ("Waiting for the management service to come up. Sleeping "
      ++ secondsText plan.retryInterval ++ ".")
    pure (.waiting stabilized)

/-- Repeats probing passes until the session is ready.  The session is closed when the deadline
has passed. -/
def awaitReady (plan : LaunchPlan) (deadline : Deadline) : Nat → Bool → Stage Unit
  | 0, _ => ExceptT.lift outOfRounds
  | rounds + 1, stabilized => do
    match ← deadline.overrun? with
    | some waited =>
      call .closeSession
      throw (timedOut waited)
    | none =>
      match ← probingPass plan deadline stabilized with
      | .ready => log ("Connected to " ++ plan.displayName ++ ".")
      | .waiting stabilized =>
        sleep plan.retryInterval
        awaitReady plan deadline rounds stabilized

/-! ## The whole wait -/

/-- Waits until the management service is reachable and stable.  Both loops count from the same look
at the clock, and an instance that has booted long ago starts out as stable. -/
def establish (plan : LaunchPlan) (rounds : Nat) : Stage SessionTarget := do
  let deadline : Deadline := ⟨← elapsed, plan.deadline⟩
  log (plan.displayName ++ " booted at " ++ plan.createdAt.display)
  let stabilized := plan.alreadyBooted (← today)
  let target ← resolve plan deadline rounds
  awaitReady plan deadline rounds stabilized
  pure target

end Attempt

end AgentLaunch
