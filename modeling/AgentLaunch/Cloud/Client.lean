import AgentLaunch.Address
import AgentLaunch.Configuration
import AgentLaunch.Document.Json
import AgentLaunch.Error
import AgentLaunch.Time.Rfc3339
import AgentLaunch.Tool

/-!
# Questions to the cloud

Instances and their passwords are asked for through the cloud's command line program, which prints
JSON.  Of an answer only what is named here is looked at, and it has to have the right type.

* `Cloud.describeInstance` — an instance, found by its exact identifier in all that is reported.
* `Cloud.encryptedPassword` — the encrypted password of an instance, without padding; none if what
  is reported is blank.

Whatever goes wrong becomes an error of the cloud, with the words of the program if it has said
something.  So it does if the instance that was asked for is not among those reported.
-/

namespace AgentLaunch.Cloud

structure Instance where
  description : InstanceDescription
  launchTime : Option Timestamp := none
  deriving DecidableEq, Repr

/-! ## Reading answers -/

def Instance.ofDocument? (d : Document) : Option Instance := do
  let fields ← d.fields? .json ["InstanceId", "PublicIpAddress", "PrivateIpAddress",
    "PublicDnsName", "PrivateDnsName", "LaunchTime"]
  let instanceId ← fields.required? "InstanceId" Document.text?
  let publicIp ← fields.optional? "PublicIpAddress" Document.text?
  let privateIp ← fields.optional? "PrivateIpAddress" Document.text?
  let publicDns ← fields.optional? "PublicDnsName" Document.text?
  let privateDns ← fields.optional? "PrivateDnsName" Document.text?
  let launchTime ← fields.optional? "LaunchTime" fun time => time.text?.bind Timestamp.ofRelaxed?
  pure ⟨{ instanceId, publicIp, privateIp, publicDns, privateDns }, launchTime⟩

def reservation? (d : Document) : Option (List Instance) := do
  let fields ← d.fields? .json ["Instances"]
  fields.orElse? "Instances" [] (Document.listOf? Instance.ofDocument?)

def instances? (d : Document) : Option (List Instance) := do
  let fields ← d.fields? .json ["Reservations"]
  let reservations ← fields.orElse? "Reservations" [] (Document.listOf? reservation?)
  pure reservations.flatten

def passwordData? (d : Document) : Option String := do
  let fields ← d.fields? .json ["PasswordData"]
  fields.orElse? "PasswordData" "" Document.text?

def findInstance (output : Bytes) (instanceId : String) : Except CloudError Instance :=
  match (Json.read? output).bind instances? with
  | none => .error (.api "invalid describe-instances output: ")
  | some all =>
    match all.find? fun i => i.description.instanceId = instanceId with
    | some i => .ok i
    | none => .error (.api ("instance " ++ instanceId ++ " not found"))

def findPassword (output : Bytes) : Except CloudError (Option String) :=
  match (Json.read? output).bind passwordData? with
  | none => .error (.api "invalid get-password-data output: ")
  | some data => .ok (Text.trimmed? data)

/-! ## Asking -/

/-- The run of the program that answers a question. -/
def invocation (settings : CloudSettings) (question : String) (arguments : List String) :
    Tool.Invocation where
  program := settings.cli
  arguments :=
    ["ec2", question] ++ arguments ++ ["--output", "json"]
      ++ (match settings.region with | some region => ["--region", region] | none => [])
      ++ (match settings.profile with | some profile => ["--profile", profile] | none => [])

def ask (settings : CloudSettings) (question : String) (arguments : List String) :
    Errand (Except CloudError Bytes) := do
  match ← Tool.invoke (invocation settings question arguments) with
  | .error e => pure (.error (.io e.text))
  | .ok ending =>
    if ending.succeeded then pure (.ok ending.stdout)
    else pure (.error (.api ("aws ec2 " ++ question ++ " failed: " ++ ending.complaint)))

def describeInstance (settings : CloudSettings) (instanceId : String) :
    Errand (Except CloudError Instance) := do
  match ← ask settings "describe-instances" ["--instance-ids", instanceId] with
  | .error e => pure (.error e)
  | .ok output => pure (findInstance output instanceId)

def encryptedPassword (settings : CloudSettings) (instanceId : String) :
    Errand (Except CloudError (Option String)) := do
  match ← ask settings "get-password-data" ["--instance-id", instanceId] with
  | .error e => pure (.error e)
  | .ok output => pure (findPassword output)

end AgentLaunch.Cloud
