import AgentLaunch.Arguments
import AgentLaunch.Attempt.Launch
import AgentLaunch.Cloud.Client
import AgentLaunch.Cloud.Decryptor
import AgentLaunch.Ssh.Session

/-!
# The program

What the program does around an attempt.  It reads its arguments, makes sure that there is a
configuration, and loads it; where there is none it leaves a template and stops.  Then it finds out
when the instance was launched, and the attempt can begin.

* `Program.prepare` — from the arguments and the files to a task, or to an early end.
* `Program.planOf` — from a task to the plan of an attempt.
* `Program.exitCode` — what an attempt's outcome means to whoever called the program.

Each step can end the program early, with a line that says why and an exit code.  The files are
those before the program and those after it, so that a template that has been written is part of the
result.
-/

namespace AgentLaunch.Program

/-! ## Texts -/

def version : String := "0.1.0"

def versionText : String :=
  Configuration.programName ++ " " ++ version ++ "\n"

def usage : String :=
  "Usage: " ++ Configuration.programName ++ " [OPTIONS] --instance-id <INSTANCE_ID>\n"

def helpText : String :=
  "Launches agents on EC2 Windows instances over SSH\n\n" ++ usage ++ "\nOptions:\n"
    ++ "  -c, --config <CONFIG>            "
    ++ "Path to configuration file (default: platform-specific config dir)\n"
    ++ "      --instance-id <INSTANCE_ID>  EC2 instance to launch the agent on\n"
    ++ "      --name <NAME>                "
    ++ "Display name used in logs and for the channel (default: instance id)\n"
    ++ "      --launched-at <LAUNCHED_AT>  "
    ++ "Instance creation time, RFC 3339 (default: queried from EC2)\n"
    ++ "  -h, --help                       Print help\n"
    ++ "  -V, --version                    Print version\n"

/-- What the program says about arguments that it cannot use. -/
def complaint : Arguments.Stop → String
  | .helpWanted => ""
  | .versionWanted => ""
  | .invalidValue => "an option has no value that it takes"
  | .unknownArgument => "there is an unknown argument"
  | .repeatedOption => "an option is given twice"
  | .unneededValue => "a flag takes no value"
  | .missingInstanceId => "--instance-id <INSTANCE_ID> is required"

def templateNotice (path : String) : String :=
  "No configuration found, wrote a template to: " ++ path
    ++ "\n\nEdit it and set at least:\n"
    ++ "  - agent.payload_path: Local path of the agent payload\n"
    ++ "  - aws.private_key: Key-pair private key (derived_password mode)\n"

/-! ## Errors -/

inductive Failure where
  /-- There is no place for the log. -/
  | logDirectory (cause : FileError)
  | configuration (cause : ConfigurationError)
  /-- The launch time is none. -/
  | launchTime (raw : String)
  | cloud (cause : CloudError)
  deriving DecidableEq, Repr

namespace Failure

def message : Failure → String
  | logDirectory cause => cause.text
  | configuration cause => cause.message
  | launchTime raw => "Invalid argument: --launched-at " ++ raw ++ ": "
  | cloud cause => cause.message

/-- What is behind a failure, if it says so. -/
def source? : Failure → Option String
  | cloud (.io text) => some text
  | _ => none

/-- A failure as the program reports it. -/
def report (f : Failure) : String :=
  "Error: " ++ f.message ++ (match f.source? with
    | some source => "\n\nCaused by:\n    " ++ source
    | none => "") ++ "\n"

end Failure

/-! ## Before the attempt -/

/-- What the program prints before it ends, and how it ends. -/
structure Ending where
  exitCode : Nat
  output : String := ""
  diagnostics : String := ""
  deriving DecidableEq, Repr, Inhabited

def Failure.ending (f : Failure) : Ending where
  exitCode := 1
  diagnostics := f.report

def stopped : Arguments.Stop → Ending
  | .helpWanted => { exitCode := 0, output := helpText }
  | .versionWanted => { exitCode := 0, output := versionText }
  | stop => { exitCode := 2, diagnostics := "error: " ++ complaint stop ++ "\n\n" ++ usage }

structure Task where
  arguments : Arguments
  configuration : Configuration
  decryptor : Cloud.Decryptor
  deriving DecidableEq, Inhabited

inductive Preparation where
  | ends (e : Ending)
  | begins (t : Task)
  deriving Inhabited

def configurationPath (dirs : Configuration.UserDirs) (arguments : Arguments) : String :=
  arguments.config.getD dirs.configPath

/-- The task that the configuration in a file makes of some arguments. -/
def taskOf (dirs : Configuration.UserDirs) (arguments : Arguments) (fs : FileSystem) :
    Except ConfigurationError Task := do
  let configuration ← Configuration.load fs dirs.home (configurationPath dirs arguments)
  let decryptor ← Cloud.Decryptor.ofConfiguration configuration
  pure { arguments, configuration, decryptor }

def leaveTemplate (path : String) (fs : FileSystem) : Ending × FileSystem :=
  match Configuration.template.save fs path with
  | (some e, fs) => ((Failure.configuration e).ending, fs)
  | (none, fs) => ({ exitCode := 1, diagnostics := templateNotice path }, fs)

/-- Goes from the arguments and the files to a task, or to an early end.  The directory of the log
is made as soon as the arguments are understood, before there is a configuration. -/
def prepare (dirs : Configuration.UserDirs) (words : List String) (fs : FileSystem) :
    Preparation × FileSystem :=
  match Arguments.read words with
  | .error stop => (.ends (stopped stop), fs)
  | .ok arguments =>
    match fs.makeDirs (Path.join dirs.dataDir "logs") with
    | .error e => (.ends (Failure.logDirectory e).ending, fs)
    | .ok fs =>
      let path := configurationPath dirs arguments
      if fs.contains path then
        match taskOf dirs arguments fs with
        | .error e => (.ends (Failure.configuration e).ending, fs)
        | .ok task => (.begins task, fs)
      else
        let (ending, fs) := leaveTemplate path fs
        (.ends ending, fs)

/-! ## The attempt -/

/-- When the instance of a task was launched: as the arguments say, else as the cloud says, else
now. -/
def launchTime (task : Task) (now : Timestamp) : Errand (Except Failure Timestamp) := do
  match task.arguments.launchedAt with
  | some raw =>
    match Timestamp.ofRfc3339? raw with
    | some t => pure (.ok t)
    | none => pure (.error (.launchTime raw))
  | none =>
    match ← Cloud.describeInstance task.configuration.aws task.arguments.instanceId with
    | .ok i => pure (.ok (i.launchTime.getD now))
    | .error e => pure (.error (.cloud e))

def planOf (task : Task) (now : Timestamp) : Errand (Except Failure LaunchPlan) := do
  match ← launchTime task now with
  | .ok createdAt =>
    pure (.ok (task.configuration.launch.plan task.arguments.instanceId task.arguments.name
      createdAt))
  | .error e => pure (.error e)

/-- The exit code after an attempt.  Only an attempt that has waited in vain may be worth another
try, so it has a code of its own. -/
def exitCode : Outcome → Nat
  | .channelEstablished => 0
  | .aborted _ => 1
  | .timedOut _ => 2

/-- The addresses of an instance, as an attempt asks for them. -/
def describe (task : Task) (instanceId : String) :
    Errand (Except CloudError InstanceDescription) := do
  match ← Cloud.describeInstance task.configuration.aws instanceId with
  | .ok i => pure (.ok i.description)
  | .error e => pure (.error e)

def session (task : Task) (target : SessionTarget) : Ssh.Session where
  target
  timeoutSecs := task.configuration.ssh.timeoutSecs

end AgentLaunch.Program
