/-!
# What goes wrong

Three kinds of trouble, each told by its cause.  A *transport error* comes from the remote host, a
*cloud error* from the provider of instances and passwords, and a *launch error* ends an attempt;
the first two may become launch errors.  `message` is the one place that gives a cause its words.

A cause that stems from the operating system carries the system's own text.
-/

namespace AgentLaunch

inductive TransportError where
  | connect (text : String)
  | auth (text : String)
  | command (text : String)
  | timeout (text : String)
  /-- The session was closed before. -/
  | closed
  | io (text : String)
  deriving DecidableEq, Repr, Inhabited

inductive CloudError where
  | api (text : String)
  | decrypt (text : String)
  | io (text : String)
  deriving DecidableEq, Repr, Inhabited

/-- Errors that end an attempt. -/
inductive LaunchError where
  /-- The deadline passed before the management service was ready. -/
  | timeout (waitedSecs : Nat)
  /-- A remote command ended with a status other than zero. -/
  | commandFailed (step : String) (exitCode : Nat)
  /-- The settings are unusable. -/
  | config (text : String)
  | cloud (cause : CloudError)
  | transport (cause : TransportError)
  /-- The agent's file could not be had. -/
  | payload (text : String)
  /-- The channel could not be bound. -/
  | channel (text : String)
  | io (text : String)
  deriving DecidableEq, Repr, Inhabited

def TransportError.message : TransportError → String
  | .connect text => "connection failed: " ++ text
  | .auth text => "authentication failed: " ++ text
  | .command text => "remote command failed: " ++ text
  | .timeout text => "timeout: " ++ text
  | .closed => "session already closed"
  | .io text => "IO error: " ++ text

def CloudError.message : CloudError → String
  | .api text => "API error: " ++ text
  | .decrypt text => "password decryption failed: " ++ text
  | .io text => "IO error: " ++ text

def LaunchError.message : LaunchError → String
  | .timeout waitedSecs =>
    "Timed out after " ++ toString waitedSecs
      ++ " seconds of waiting for the management service to be connected"
  | .commandFailed step exitCode => step ++ " failed with exit code " ++ toString exitCode
  | .config text => "Configuration error: " ++ text
  | .cloud cause => "Cloud error: " ++ cause.message
  | .transport cause => "Transport error: " ++ cause.message
  | .payload text => "Agent payload error: " ++ text
  | .channel text => "Channel error: " ++ text
  | .io text => "IO error: " ++ text

end AgentLaunch
