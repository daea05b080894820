import AgentLaunch.Document.Toml
import AgentLaunch.Document.Toml.Printer
import AgentLaunch.Files.Tree
import AgentLaunch.Settings

/-!
# Configurations

The configuration of the program: four sections of a TOML file.  Only the agent's file has to be
given; the other sections may be left out, and so may every key in them.

A configuration that has been read is complete: it names the agent's file, and it has what its
security mode needs, the private key for derived passwords or the password itself.
-/

namespace AgentLaunch

/-! ## The sections -/

/-- How to call the cloud's command line program. -/
structure CloudSettings where
  region : Option String := none
  profile : Option String := none
  /-- The private key that opens encrypted passwords. -/
  privateKey : Option String := none
  /-- The name of the program.  Settings that are left out altogether have none. -/
  cli : String := ""
  deriving DecidableEq, Repr, Inhabited

structure SshSettings where
  port : Nat := 22
  timeoutSecs : Nat := 30
  deriving DecidableEq, Repr, Inhabited

structure AgentSettings where
  payloadPath : String
  deriving DecidableEq, Repr, Inhabited

structure Configuration where
  aws : CloudSettings := {}
  ssh : SshSettings := {}
  agent : AgentSettings
  launch : LaunchSettings := {}
  deriving DecidableEq, Inhabited

namespace CloudSettings

/-- The program that is used unless the section names another one.  A configuration without the
section gets no name at all. -/
def usualCli : String := "aws"

def ofDocument? (dialect : Dialect) (d : Document) : Option CloudSettings := do
  let fields ← d.fields? dialect ["region", "profile", "private_key", "cli"]
  let region ← fields.optional? "region" Document.text?
  let profile ← fields.optional? "profile" Document.text?
  let privateKey ← fields.optional? "private_key" Document.text?
  let cli ← fields.orElse? "cli" usualCli Document.text?
  pure { region, profile, privateKey, cli }

def entries (s : CloudSettings) : List (String × Document) :=
  LaunchSettings.optionalEntry "region" s.region
    ++ LaunchSettings.optionalEntry "profile" s.profile
    ++ LaunchSettings.optionalEntry "private_key" s.privateKey
    ++ [("cli", .ofText s.cli)]

end CloudSettings

namespace SshSettings

def ofDocument? (dialect : Dialect) (d : Document) : Option SshSettings := do
  let fields ← d.fields? dialect ["port", "timeout_secs"]
  let port ← fields.orElse? "port" 22 Document.nat16?
  let timeoutSecs ← fields.orElse? "timeout_secs" 30 Document.nat64?
  pure { port, timeoutSecs }

def entries (s : SshSettings) : List (String × Document) :=
  [("port", .ofNat s.port), ("timeout_secs", .ofNat s.timeoutSecs)]

end SshSettings

namespace AgentSettings

def ofDocument? (dialect : Dialect) (d : Document) : Option AgentSettings := do
  let fields ← d.fields? dialect ["payload_path"]
  let payloadPath ← fields.required? "payload_path" Document.text?
  pure { payloadPath }

def entries (s : AgentSettings) : List (String × Document) :=
  [("payload_path", .ofText s.payloadPath)]

end AgentSettings

/-! ## What can be wrong with a configuration -/

inductive MissingField where
  | payloadPath
  | privateKey
  | adminPassword
  deriving DecidableEq, Repr

def MissingField.text : MissingField → String
  | payloadPath =>
    "agent.payload_path: Local path of the agent payload (e.g., \"~/agent.jar\")"
  | privateKey =>
    "aws.private_key: Key-pair private key used to decrypt the administrator password"
  | adminPassword => "launch.admin_password: Password for launch.remote_admin"

/-- Why a configuration cannot be read, written or used. -/
inductive ConfigurationError where
  | unreadable (path : String) (cause : FileError)
  /-- The file is no TOML, or no configuration. -/
  | unparsable (path : String)
  | incomplete (path : String) (fields : List MissingField)
  | noDirectory (cause : FileError)
  /-- A number has no TOML form. -/
  | unprintable
  | unwritable (cause : FileError)
  /-- Derived passwords are asked for without a key. -/
  | keyRequired
  deriving DecidableEq, Repr

def ConfigurationError.message (e : ConfigurationError) : String :=
  "Configuration error: " ++ match e with
    | unreadable path cause => "Failed to read config file " ++ path ++ ": " ++ cause.text
    | unparsable path => "Failed to parse config file " ++ path ++ ": "
    | incomplete path fields =>
      "Configuration incomplete\n\nPlease edit " ++ path ++ " and set:\n  - "
        ++ "\n  - ".intercalate (fields.map MissingField.text)
    | noDirectory cause => "Failed to create config directory: " ++ cause.text
    | unprintable => "Failed to serialize config: "
    | unwritable cause => "Failed to write config file: " ++ cause.text
    | keyRequired => "aws.private_key is required for derived_password mode"

namespace Configuration

/-! ## Configurations as documents -/

def ofDocument? (dialect : Dialect) (d : Document) : Option Configuration := do
  let fields ← d.fields? dialect ["aws", "ssh", "agent", "launch"]
  let aws ← fields.orElse? "aws" {} (CloudSettings.ofDocument? dialect)
  let ssh ← fields.orElse? "ssh" {} (SshSettings.ofDocument? dialect)
  let agent ← fields.required? "agent" (AgentSettings.ofDocument? dialect)
  let launch ← fields.orElse? "launch" {} (LaunchSettings.ofDocument? dialect)
  pure { aws, ssh, agent, launch }

def sections (c : Configuration) : List Toml.Section :=
  [("aws", c.aws.entries), ("ssh", c.ssh.entries), ("agent", c.agent.entries),
    ("launch", c.launch.entries)]

def toDocument (c : Configuration) : Document :=
  .ofEntries (c.sections.map fun s => (s.1, .ofEntries s.2))

/-- A configuration to be filled in: everything at its default, and no agent yet. -/
def template : Configuration where
  agent := ⟨""⟩

/-! ## Completeness -/

/-- The configuration with its paths in the home directory made complete. -/
def expandPaths (home : Option String) (c : Configuration) : Configuration where
  aws := { c.aws with privateKey := c.aws.privateKey.map (Path.expandTilde home) }
  ssh := c.ssh
  agent := ⟨Path.expandTilde home c.agent.payloadPath⟩
  launch := c.launch

/-- The fields that the security mode requires and that are not set. -/
def missingFields (c : Configuration) : List MissingField :=
  (if c.agent.payloadPath.isEmpty then [.payloadPath] else [])
    ++ match c.launch.security with
      | .derivedPassword => if c.aws.privateKey.isNone then [.privateKey] else []
      | .suppliedPassword => if c.launch.adminPassword.isNone then [.adminPassword] else []

/-! ## Files -/

def ofText? (text : String) : Option Configuration :=
  (Toml.read? text).bind (ofDocument? .toml)

def toText? (c : Configuration) : Option String :=
  Toml.print? c.sections

/-- The configuration in a file, if it is complete.  Whoever has to complete it is told all that is
missing at once. -/
def load (fs : FileSystem) (home : Option String) (path : String) :
    Except ConfigurationError Configuration :=
  match fs.readText path with
  | .error e => .error (.unreadable path e)
  | .ok text =>
    match ofText? text with
    | none => .error (.unparsable path)
    | some c =>
      let c := c.expandPaths home
      match c.missingFields with
      | [] => .ok c
      | fields => .error (.incomplete path fields)

/-- The files after a configuration has been written into one, and the error if that failed.  The
directory of the file is made first, and stays. -/
def save (c : Configuration) (fs : FileSystem) (path : String) :
    Option ConfigurationError × FileSystem :=
  let made := match Path.parent? path with
    | some dir => fs.makeDirs dir
    | none => .ok fs
  match made with
  | .error e => (some (.noDirectory e), fs)
  | .ok fs =>
    match c.toText? with
    | none => (some .unprintable, fs)
    | some text =>
      match fs.write path (Utf8.encode text) with
      | .error e => (some (.unwritable e), fs)
      | .ok fs => (none, fs)

/-! ## Usual places -/

def programName : String := "kuiper-ec2-launcher"

structure UserDirs where
  home : Option String := none
  configHome : Option String := none
  dataHome : Option String := none
  deriving DecidableEq, Repr, Inhabited

namespace UserDirs

/-- A directory that the environment names, if it is absolute; else one in the home directory; else
the current directory. -/
def base (dirs : UserDirs) (named : Option String) (usual : String) : String :=
  match named.filter Path.isAbsolute with
  | some dir => dir
  | none =>
    match dirs.home with
    | some home => Path.join home usual
    | none => "."

def configPath (dirs : UserDirs) : String :=
  Path.join (Path.join (dirs.base dirs.configHome ".config") programName) "config.toml"

def dataDir (dirs : UserDirs) : String :=
  Path.join (dirs.base dirs.dataHome ".local/share") programName

end UserDirs

end Configuration

end AgentLaunch
