import AgentLaunch.Attempt.Handover
import AgentLaunch.Attempt.Preparation
import AgentLaunch.Attempt.Readiness
import AgentLaunch.Attempt.Start

/-!
# Launch attempts

An attempt waits for the management service, prepares the working directory, starts the agent and
hands it over.  Every failure ends in an `Outcome` and is told in the progress messages.  The
session is closed on every way that leads to a failure; otherwise it belongs to the close hook.

Who closes the session changes once.  Before there is an agent the attempt does, on every failure;
when the agent is handed over, the close hook takes the session with it, and a failure after that
closes it through the hook.  So the two branches of `useSession` differ in one line.
-/

namespace AgentLaunch

inductive Outcome where
  /-- The agent runs and is bound to a channel. -/
  | channelEstablished
  /-- The management service was not ready before the deadline. -/
  | timedOut (waitedSecs : Nat)
  /-- Something failed, for the given reason. -/
  | aborted (reason : String)
  deriving DecidableEq, Repr, Inhabited

namespace Attempt

/-- Ends an attempt with an error.  There is no line for a failed command, since whoever waits for a
command tells its exit code. -/
def abort (e : LaunchError) : Activity Outcome := do
  match e with
  | .commandFailed _ _ => pure ()
  | _ => log ("Launch failed: " ++ e.message)
  pure (.aborted e.message)

def provision (plan : LaunchPlan) : Stage ProcessId := do
  let prepared ← prepare plan
  startAgent plan prepared.dir

def useSession (plan : LaunchPlan) : Activity Outcome := do
  match ← (provision plan).run with
  | .error e =>
    call .closeSession
    abort e
  | .ok process =>
    -- The close hook has the session from here on, so there is nothing to close.
    match ← (handOver process plan.displayName).run with
    | .error e => abort e
    | .ok () => pure .channelEstablished

/-- One attempt, with at most the given number of rounds in each of its loops.  A timeout is told by
its own message, without the words that introduce the other failures. -/
def launch (plan : LaunchPlan) (rounds : Nat) : Activity Outcome := do
  match ← (establish plan rounds).run with
  | .error (.timeout waitedSecs) =>
    log (LaunchError.timeout waitedSecs).message
    pure (.timedOut waitedSecs)
  | .error e => abort e
  | .ok _ => useSession plan

end Attempt

end AgentLaunch
