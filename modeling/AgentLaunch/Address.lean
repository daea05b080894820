import AgentLaunch.Text.Blank

/-!
# Addresses of instances

An instance may have up to four addresses, and a launch uses one kind of them.  An instance that
waits for its address has none of that kind, or a blank one, or the unassigned address itself;
all three look the same through `InstanceDescription.address`.
-/

namespace AgentLaunch

/-- The kind of address that a launch connects to. -/
inductive ConnectionStrategy where
  | publicIp
  | privateIp
  | publicDns
  | privateDns
  deriving DecidableEq, Repr, Inhabited

namespace ConnectionStrategy

def name : ConnectionStrategy → String
  | publicIp => "public_ip"
  | privateIp => "private_ip"
  | publicDns => "public_dns"
  | privateDns => "private_dns"

def all : List ConnectionStrategy :=
  [publicIp, privateIp, publicDns, privateDns]

def ofName? (s : String) : Option ConnectionStrategy :=
  all.find? fun strategy => strategy.name == s

end ConnectionStrategy

/-- What the cloud says about how to reach an instance. -/
structure InstanceDescription where
  instanceId : String := ""
  publicIp : Option String := none
  privateIp : Option String := none
  publicDns : Option String := none
  privateDns : Option String := none
  deriving DecidableEq, Repr, Inhabited

namespace InstanceDescription

/-- The address of an instance that has not been given one. -/
def unassigned : String := "0.0.0.0"

/-- The address of a kind as the cloud reports it. -/
def reported (d : InstanceDescription) : ConnectionStrategy → Option String
  | .publicIp => d.publicIp
  | .privateIp => d.privateIp
  | .publicDns => d.publicDns
  | .privateDns => d.privateDns

/-- The address to connect to, without padding.  An address that the cloud does not report, or
reports as blanks, is the unassigned one, so that whoever connects has one case to look for. -/
def address (d : InstanceDescription) (strategy : ConnectionStrategy) : String :=
  ((d.reported strategy).bind Text.trimmed?).getD unassigned

end InstanceDescription

end AgentLaunch
