/-!
# Secrets and credentials

A password is wrapped as soon as it is known.  `expose` is for the session target alone; whatever
is shown to people goes through `shown`, which does not look at the password.

Credentials may not be known yet when they are first looked for.  `Resolution` tells this apart from
credentials that cannot be had at all, which is an error of the attempt.
-/

namespace AgentLaunch

structure Secret where
  expose : String := ""
  deriving DecidableEq, Inhabited

/-- A password as diagnostics show it. -/
def Secret.shown (_ : Secret) : String := "Secret(***)"

structure Credentials where
  username : String
  password : Secret
  deriving DecidableEq, Inhabited

def Credentials.shown (c : Credentials) : String :=
  "Credentials \x7b username: \"" ++ c.username ++ "\", password: " ++ c.password.shown ++ " \x7d"

/-- The result of one try to find credentials. -/
inductive Resolution where
  | ready (credentials : Credentials)
  /-- Not known yet; the next try may find them. -/
  | pending
  deriving DecidableEq, Inhabited

def Resolution.shown : Resolution → String
  | .ready credentials => "Ready(" ++ credentials.shown ++ ")"
  | .pending => "Pending"

/-- Where a session goes, and as whom. -/
structure SessionTarget where
  host : String
  username : String
  password : Secret
  useHttps : Bool
  deriving DecidableEq, Inhabited

end AgentLaunch
