import AgentLaunch.Address
import AgentLaunch.Secret
import AgentLaunch.Time.Timestamp

/-!
# Launch plans

A plan holds everything that one attempt needs to know about its instance: how to reach it, as
whom, how long to wait for it, and what to run there.  It does not change during the attempt.
Durations are in milliseconds.

Some fields are not used as they stand.  The timeout has a least value (`deadline`), an init script
of blanks is no script (`effectiveInitScript`), and of the time at which the instance was created
only its age matters (`alreadyBooted`).  Those who carry an attempt out ask for these and not for
the fields behind them.
-/

namespace AgentLaunch

inductive SecurityMode where
  /-- The cloud generated a password, which has to be decrypted. -/
  | derivedPassword
  /-- The password is configured. -/
  | suppliedPassword
  deriving DecidableEq, Repr, Inhabited

namespace SecurityMode

def name : SecurityMode → String
  | derivedPassword => "derived_password"
  | suppliedPassword => "supplied_password"

def ofName? (s : String) : Option SecurityMode :=
  [derivedPassword, suppliedPassword].find? fun mode => mode.name == s

end SecurityMode

/-- The identity that derived passwords belong to. -/
def canonicalAdmin : String := "Administrator"

/-- What one attempt is to do.  Times are in milliseconds, as on the clock of an attempt. -/
structure LaunchPlan where
  instanceId : String
  /-- The name in progress messages, and of the channel. -/
  displayName : String := instanceId
  /-- How long to wait for the management service; see `LaunchPlan.deadline`. -/
  launchTimeout : Nat := 0
  security : SecurityMode := .derivedPassword
  remoteAdmin : String := canonicalAdmin
  adminPassword : Option Secret := none
  useHttps : Bool := false
  /-- The pause in which a service that has just answered becomes stable. -/
  bootDelay : Nat := 0
  /-- The instance was stopped and started again, so that its age says nothing. -/
  stopOnTerminate : Bool := false
  createdAt : Timestamp
  connectionStrategy : ConnectionStrategy := .publicIp
  /-- The pause between two tries. -/
  retryInterval : Nat := 10000
  tmpDir : Option String := none
  initScript : Option String := none
  jvmOpts : Option String := none
  remoteFs : Option String := none
  javaPath : String := "java"
  deriving Inhabited

namespace LaunchPlan

/-- No attempt waits for less than this. -/
def leastTimeout : Nat := 3000

/-- An instance older than this, in nanoseconds, has booted. -/
def bootedAge : Int := 180 * 1000000000

/-- How long the attempt waits for the management service: as long as it is told to, but never less
than `leastTimeout`. -/
def deadline (plan : LaunchPlan) : Nat :=
  max plan.launchTimeout leastTimeout

/-- Whether the instance is old enough to have booted.  One that was created in the future is
not. -/
def alreadyBooted (plan : LaunchPlan) (now : Timestamp) : Bool :=
  bootedAge < now.since plan.createdAt

/-- The init script, unless it is blank. -/
def effectiveInitScript (plan : LaunchPlan) : Option String :=
  plan.initScript.filter fun script => !Text.isBlankText script

end LaunchPlan

end AgentLaunch
