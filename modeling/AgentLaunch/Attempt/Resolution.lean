import AgentLaunch.Attempt.Request
import AgentLaunch.Plan

/-!
# Finding out where to connect, and as whom

A *resolution pass* asks the cloud for the instance's address and, if there is one, finds the
credentials.  Almost every failure in it is passing (the instance has no address yet, the password
has not been generated, the cloud does not answer) and leaves the pass without a result, to be
repeated.  Two are not: a password that is required but not configured, and a password that cannot
be decrypted.
-/

namespace AgentLaunch.Attempt

def secondsText (milliseconds : Nat) : String :=
  toString (milliseconds / 1000) ++ "s"

def decryptCredentials (plan : LaunchPlan) (material : String) : Stage Resolution := do
  let password ← orFail .cloud (call (.decrypt material))
  if plan.remoteAdmin ≠ canonicalAdmin then
    warn ("For password retrieval remote admin must be " ++ canonicalAdmin
      ++ ", ignoring user provided value")
  pure (.ready ⟨canonicalAdmin, password⟩)

/-- The credentials that the cloud has for the instance.  Whether the cloud does not answer or has
no password yet makes a difference to the line that tells it, and to nothing else. -/
def deriveCredentials (plan : LaunchPlan) : Stage Resolution := do
  match ← call (.encryptedPassword plan.instanceId) with
  | .error e =>
    log ("Unexpected error fetching password data: " ++ e.message)
    pure .pending
  | .ok reported =>
    match reported.bind Text.trimmed? with
    | some material => decryptCredentials plan material
    | none =>
      log ("Waiting for password to be available. Sleeping " ++ secondsText plan.retryInterval
        ++ ".")
      pure .pending

/-- One try to find the credentials that the plan asks for. -/
def resolveCredentials (plan : LaunchPlan) : Stage Resolution :=
  match plan.security with
  | .suppliedPassword =>
    match plan.adminPassword with
    | some password => pure (.ready ⟨plan.remoteAdmin, password⟩)
    | none => throw (.config "supplied_password mode requires admin_password to be set")
  | .derivedPassword => deriveCredentials plan

def openSession (plan : LaunchPlan) (host : String) (credentials : Credentials) :
    Stage SessionTarget := do
  let target : SessionTarget :=
    ⟨host, credentials.username, credentials.password, plan.useHttps⟩
  log ("Connecting to (" ++ host ++ ") as " ++ credentials.username)
  call (.openSession target)
  pure target

/-- One resolution pass: the session it has opened, or nothing if it has to be repeated. -/
def resolutionPass (plan : LaunchPlan) : Stage (Option SessionTarget) := do
  match ← call (.describe plan.instanceId) with
  | .error e =>
    log ("Unable to describe " ++ plan.instanceId ++ ": " ++ e.message)
    pure none
  | .ok description =>
    let host := description.address plan.connectionStrategy
    if host = InstanceDescription.unassigned then
      log ("Invalid host " ++ InstanceDescription.unassigned
        ++ ", your host is most likely waiting for an ip address.")
      pure none
    else
      match ← resolveCredentials plan with
      | .ready credentials => some <$> openSession plan host credentials
      | .pending => pure none

end AgentLaunch.Attempt
