import AgentLaunch.Plan
import AgentLaunch.WorkDir

/-!
# The agent's command

The command line that starts the agent.  Its parts are quoted one by one, except the options,
which are the user's own text and go in as they are.

The order of the parts is that of a Java program: the path of Java, options for Java, the file to
run, and what the agent itself is told, which is the directory that it works in.  Blank options
leave no trace in the line, not even a second space.  The path of the file that the command runs is
kept beside the line, so that the upload and the command cannot disagree about it.
-/

namespace AgentLaunch

/-- The command that starts the agent, and what it is made of. -/
structure AgentCommand where
  /-- Where the agent's file is uploaded. -/
  payloadPath : String
  /-- Extra options, without padding. -/
  jvmOpts : Option String
  /-- The value of `-workDir`, quoted. -/
  workDir : String
  line : String
  deriving DecidableEq, Repr

namespace AgentCommand

/-- The directory that the agent works in: the configured one, or the working directory. -/
def agentDir (plan : LaunchPlan) (dir : WorkDir) : String :=
  (plan.remoteFs.bind Text.trimmed?).getD dir.path

def assemble (plan : LaunchPlan) (dir : WorkDir) : AgentCommand :=
  let payloadPath := dir.join WorkDir.agentFile
  let jvmOpts := plan.jvmOpts.bind Text.trimmed?
  let workDir := Windows.quote (agentDir plan dir)
  { payloadPath
    jvmOpts
    workDir
    line := " ".intercalate
      ([Windows.quote plan.javaPath] ++ jvmOpts.toList
        ++ ["-jar", Windows.quote payloadPath, "-workDir", workDir]) }

end AgentCommand

end AgentLaunch
