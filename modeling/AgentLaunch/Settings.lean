import AgentLaunch.Document.Fields
import AgentLaunch.Plan

/-!
# Launch settings

The launch settings of a configuration file.  Every field has a default, and the same defaults
hold for a field that is left out and for settings that are left out altogether.  Durations are in
seconds, as written; a plan has them in milliseconds.

Reading is strict about what is there and generous about what is not: a field of the wrong type is
an error, and a field with an unknown name is none.
-/

namespace AgentLaunch

structure LaunchSettings where
  remoteAdmin : String := canonicalAdmin
  adminPassword : Option Secret := none
  security : SecurityMode := .derivedPassword
  useHttps : Bool := false
  launchTimeoutSecs : Nat := 600
  bootDelaySecs : Nat := 60
  stopOnTerminate : Bool := false
  connectionStrategy : ConnectionStrategy := .publicIp
  retryIntervalSecs : Nat := 10
  tmpDir : Option String := none
  initScript : Option String := none
  jvmOpts : Option String := none
  remoteFs : Option String := none
  javaPath : String := "java"
  deriving DecidableEq, Inhabited

namespace LaunchSettings

/-- The fields, in the order in which they are written. -/
def fieldNames : List String :=
  ["remote_admin", "admin_password", "security", "use_https", "launch_timeout_secs",
    "boot_delay_secs", "stop_on_terminate", "connection_strategy", "retry_interval_secs",
    "tmp_dir", "init_script", "jvm_opts", "remote_fs", "java_path"]

def secret? (d : Document) : Option Secret :=
  d.text?.map Secret.mk

def ofFields? (dialect : Dialect) (fields : Fields) : Option LaunchSettings := do
  let remoteAdmin ← fields.orElse? "remote_admin" canonicalAdmin Document.text?
  let adminPassword ← fields.optional? "admin_password" secret?
  let security ← fields.orElse? "security" .derivedPassword
    (Document.variant? dialect SecurityMode.ofName?)
  let useHttps ← fields.orElse? "use_https" false Document.bool?
  let launchTimeoutSecs ← fields.orElse? "launch_timeout_secs" 600 Document.nat64?
  let bootDelaySecs ← fields.orElse? "boot_delay_secs" 60 Document.nat64?
  let stopOnTerminate ← fields.orElse? "stop_on_terminate" false Document.bool?
  let connectionStrategy ← fields.orElse? "connection_strategy" .publicIp
    (Document.variant? dialect ConnectionStrategy.ofName?)
  let retryIntervalSecs ← fields.orElse? "retry_interval_secs" 10 Document.nat64?
  let tmpDir ← fields.optional? "tmp_dir" Document.text?
  let initScript ← fields.optional? "init_script" Document.text?
  let jvmOpts ← fields.optional? "jvm_opts" Document.text?
  let remoteFs ← fields.optional? "remote_fs" Document.text?
  let javaPath ← fields.orElse? "java_path" "java" Document.text?
  pure {
    remoteAdmin, adminPassword, security, useHttps, launchTimeoutSecs, bootDelaySecs,
    stopOnTerminate, connectionStrategy, retryIntervalSecs, tmpDir, initScript, jvmOpts,
    remoteFs, javaPath }

def ofDocument? (dialect : Dialect) (d : Document) : Option LaunchSettings :=
  (d.fields? dialect fieldNames).bind (ofFields? dialect)

/-- A field that is written only if it has a value. -/
def optionalEntry (name : String) (value : Option String) : List (String × Document) :=
  (value.map fun s => (name, Document.ofText s)).toList

/-- The fields that are written for settings: all, except those that have no value. -/
def entries (s : LaunchSettings) : List (String × Document) :=
  [("remote_admin", .ofText s.remoteAdmin)]
    ++ optionalEntry "admin_password" (s.adminPassword.map Secret.expose)
    ++ [("security", .ofText s.security.name),
      ("use_https", .bool s.useHttps),
      ("launch_timeout_secs", .ofNat s.launchTimeoutSecs),
      ("boot_delay_secs", .ofNat s.bootDelaySecs),
      ("stop_on_terminate", .bool s.stopOnTerminate),
      ("connection_strategy", .ofText s.connectionStrategy.name),
      ("retry_interval_secs", .ofNat s.retryIntervalSecs)]
    ++ optionalEntry "tmp_dir" s.tmpDir
    ++ optionalEntry "init_script" s.initScript
    ++ optionalEntry "jvm_opts" s.jvmOpts
    ++ optionalEntry "remote_fs" s.remoteFs
    ++ [("java_path", .ofText s.javaPath)]

def toDocument (s : LaunchSettings) : Document :=
  .ofEntries s.entries

def plan (s : LaunchSettings) (instanceId : String) (displayName : Option String)
    (createdAt : Timestamp) : LaunchPlan where
  instanceId
  displayName := displayName.getD instanceId
  launchTimeout := s.launchTimeoutSecs * 1000
  security := s.security
  remoteAdmin := s.remoteAdmin
  adminPassword := s.adminPassword
  useHttps := s.useHttps
  bootDelay := s.bootDelaySecs * 1000
  stopOnTerminate := s.stopOnTerminate
  createdAt
  connectionStrategy := s.connectionStrategy
  retryInterval := s.retryIntervalSecs * 1000
  tmpDir := s.tmpDir
  initScript := s.initScript
  jvmOpts := s.jvmOpts
  remoteFs := s.remoteFs
  javaPath := s.javaPath

end LaunchSettings

end AgentLaunch
