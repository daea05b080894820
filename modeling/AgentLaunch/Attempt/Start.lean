import AgentLaunch.AgentCommand
import AgentLaunch.Attempt.Request

/-!
# Starting the agent

The agent's file is fetched, uploaded over whatever copy is there, and started.

Nothing of an older copy is kept, not even if it is the same.  The command is written to the
progress messages before it runs.  It has a limit of one day, which is for sending the request; the
agent that it starts is not ended by it.
-/

namespace AgentLaunch.Attempt

/-- The limit that goes with the agent's command, in milliseconds.  The agent itself runs for as
long as its channel lives. -/
def agentLimit : Nat := 86400 * 1000

/-- Uploads the agent into a working directory and starts it.  Its file is fetched first, so that
nothing is asked of the remote host if there is none. -/
def startAgent (plan : LaunchPlan) (dir : WorkDir) : Stage ProcessId := do
  let payload ← orFail
    (fun text => .payload ("failed to fetch " ++ WorkDir.agentFile ++ ": " ++ text))
    (call (.fetch WorkDir.agentFile))
  let command := AgentCommand.assemble plan dir
  putFile command.payloadPath payload
  log (WorkDir.agentFile ++ " sent remotely. Bootstrapping it")
  log ("Launching agent: " ++ command.line)
  execute command.line (some agentLimit)

end AgentLaunch.Attempt
