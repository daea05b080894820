import AgentLaunch.Attempt.Request
import AgentLaunch.Plan
import AgentLaunch.WorkDir

/-!
# Preparing the working directory

Before the agent comes, its working directory has to exist and the init script has to have run in
it once.  A marker file in the directory records that the script succeeded; it is written last, so
a script that failed, or whose output could not be read to the end, runs again next time.

The output of the script is shown before anybody asks how it has ended, and all of it: a script that
waits for its output to be taken up could not end otherwise.  The command for the directory succeeds
if the directory is there already.
-/

namespace AgentLaunch.Attempt

inductive Initialization where
  /-- There is none, or it is blank. -/
  | notConfigured
  /-- The marker was there, so the script was not run. -/
  | alreadyDone
  /-- The script succeeded and the marker was written. -/
  | completed
  deriving DecidableEq, Repr, Inhabited

structure PreparedDir where
  dir : WorkDir
  initialization : Initialization
  deriving DecidableEq, Repr

def makeDirCommand (dir : WorkDir) : String :=
  "if not exist " ++ dir.quoted ++ " mkdir " ++ dir.quoted

def runBatchCommand (path : String) : String :=
  "cmd /c " ++ Windows.quote path

/-- Shows a command's output line by line.  An output that fails has shown what came before. -/
def showOutput (process : ProcessId) : Stage Unit := do
  let output ← call (.readOutput process)
  (Progress.linesOf output).forM fun line => (log line : Stage Unit)
  match output.failure with
  | some text => throw (.io text)
  | none => pure ()

def showOutputIfAny (process : ProcessId) : Stage Unit := do
  if ← call (.takeStdout process) then showOutput process

/-- Waits for the end of a command that has to succeed.  Another exit code ends the attempt, after
a line that gives it. -/
def awaitSuccess (process : ProcessId) (step complaint : String) : Stage Unit := do
  let exitCode ← wait process
  if exitCode ≠ 0 then
    log (complaint ++ toString exitCode)
    throw (.commandFailed step exitCode)

def makeDir (dir : WorkDir) : Stage Unit := do
  log "Creating tmp directory if it does not exist"
  let process ← execute (makeDirCommand dir) none
  awaitSuccess process "creating tmp directory" "Creating tmpdir failed="

/-- Uploads the init script, runs it, and leaves the marker.  The marker comes last, so it says that
the script has ended, with the exit code 0, and that its output was shown. -/
def runInitScript (dir : WorkDir) (script : String) : Stage Unit := do
  log "Executing init script"
  let path := dir.join WorkDir.initScriptFile
  putFile path (Utf8.encode script)
  let process ← execute (runBatchCommand path) none
  showOutputIfAny process
  awaitSuccess process "init script" "init script failed: exit code="
  putFile (dir.join WorkDir.initMarkerFile) (Utf8.encode WorkDir.initMarkerText)
  log "init script ran successfully"

/-- Runs the init script unless there is none or it has succeeded before.  The marker alone decides
that: the script that an earlier attempt has uploaded says nothing. -/
def runInitOnce (plan : LaunchPlan) (dir : WorkDir) : Stage Initialization :=
  match plan.effectiveInitScript with
  | none => pure .notConfigured
  | some script => do
    if ← fileExists (dir.join WorkDir.initMarkerFile) then
      log "Init script already ran, skipping"
      pure .alreadyDone
    else
      runInitScript dir script
      pure .completed

def prepare (plan : LaunchPlan) : Stage PreparedDir := do
  let dir := WorkDir.resolve plan.tmpDir
  makeDir dir
  let initialization ← runInitOnce plan dir
  pure ⟨dir, initialization⟩

end AgentLaunch.Attempt
