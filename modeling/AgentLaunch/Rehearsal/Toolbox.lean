import AgentLaunch.Tool

/-!
# Rehearsing with other programs

A toolbox holds the programs that can be started, each with a scripted reply to every run.  Starting
anything else fails, and so does a name or an argument that the system cannot take.

A reply may depend on the arguments and the input of the run.  What has been started is reported
with its arguments, so that a rehearsal can be compared with what was expected of it.
-/

namespace AgentLaunch.Rehearsal

/-- Programs by name, and how a run of them ends. -/
abbrev Toolbox := List (String × (Tool.Invocation → Tool.Ending))

namespace Toolbox

/-- Whether the system can take the name and the arguments of a run. -/
def isPassable (i : Tool.Invocation) : Bool :=
  (i.program :: i.arguments).all fun word => !word.toList.contains '\x00'

def reply (box : Toolbox) (i : Tool.Invocation) : Except Tool.StartError Tool.Ending :=
  if isPassable i then
    match box.lookup i.program with
    | some run => .ok (run i)
    | none => .error .notFound
  else .error .nulByte

def run {α : Type} (box : Toolbox) (errand : Errand α) : Dialogue.Run Tool.signature Unit α :=
  Dialogue.run (S := Tool.signature) (fun _ i => (box.reply i, ())) errand ()

def started : Dialogue.Exchange Tool.signature Unit → Bool
  | ⟨_, _, .ok _⟩ => true
  | ⟨_, _, .error _⟩ => false

def startedRuns {α : Type} (report : Dialogue.Run Tool.signature Unit α) :
    List Tool.Invocation :=
  (report.exchanges.filter started).map fun e => e.request

end Toolbox

end AgentLaunch.Rehearsal
