import AgentLaunch.Program

/-!
# The command line

The program as it is called from a shell.  It works on the real files and the real clock, and
prints progress to the standard error stream.  It starts no other programs and opens no
connections: whatever an attempt asks of them is refused, as on a machine that has neither.
-/

namespace AgentLaunch.CommandLine

/-! ## Files -/

/-- What lies under a path; nothing if it cannot be read. -/
def look (path : String) : IO (Option FileTree) := do
  try
    pure (some (.file (← IO.FS.readBinFile path).toList))
  catch
    | .inappropriateType .. => pure (some (.dir []))
    | _ => pure none

/-- The part of the files that some paths lead to. -/
def snapshot (current : String) (paths : List String) : IO FileSystem := do
  let start : FileSystem := { current := Path.names current }
  let start := start.put start.current (.dir [])
  paths.foldlM (fun fs path => do
    match ← look path with
    | some tree => pure (fs.put (fs.start path ++ Path.names path) tree)
    | none => pure fs) start

/-- Makes what a tree holds under a path and the real files do not, directories first. -/
partial def store (path : String) : FileTree → IO Unit
  | .file contents => do
    if (← look path).isNone then IO.FS.writeBinFile path ⟨contents.toArray⟩
  | .dir entries => do
    unless path.isEmpty do IO.FS.createDirAll path
    entries.forM fun (name, tree) => store (path ++ "/" ++ name) tree

/-! ## The attempt -/

/-- The date and time, which a new file tells. -/
def now : IO Timestamp := do
  let (_, path) ← IO.FS.createTempFile
  let modified := (← path.metadata).modified
  IO.FS.removeFile path
  pure ⟨modified.sec / 86400, (modified.sec % 86400).toNat, modified.nsec.toNat⟩

def refuse (_ : Tool.Invocation) : IO (Except Tool.StartError Tool.Ending) :=
  pure (.error .notFound)

def errand {α : Type} (e : Errand (Except CloudError α)) : IO (Except CloudError α) := do
  pure ((← Dialogue.perform (S := Tool.signature) refuse e).getD (.error (.io "")))

def noConnection : TransportError :=
  .connect "Connection refused (os error 111)"

def answer (task : Program.Task) : (c : Attempt.Call) → IO c.Reply
  | .describe id => errand (Program.describe task id)
  | .encryptedPassword id => errand (Cloud.encryptedPassword task.configuration.aws id)
  | .decrypt material => errand (task.decryptor.decrypt material)
  | .openSession _ => pure ()
  | .execute _ _ => pure (.error noConnection)
  | .putFile _ _ => pure (.error noConnection)
  | .fileExists _ => pure (.error noConnection)
  | .closeSession => pure ()
  | .wait _ => pure (.error noConnection)
  | .takeStdout _ => pure false
  | .takeStdin _ => pure false
  | .readOutput _ => pure {}
  | .destroy _ => pure ()
  | .fetch _ => do
    match ← look task.configuration.agent.payloadPath with
    | some (.file contents) => pure (.ok contents)
    | some (.dir _) => pure (.error FileError.isDirectory.text)
    | none => pure (.error FileError.notFound.text)
  | .bind _ => pure {}
  | .channelReads _ => pure {}
  | .channelFired _ => pure ()
  | .channelKeeps _ => pure ()

def reply (task : Program.Task) : (r : Attempt.Request) → IO r.Reply
  | .log line => IO.eprintln line
  | .sleep duration => IO.sleep duration.toUInt32
  | .elapsed => IO.monoMsNow
  | .today => now
  | .ping _ => pure (some (.error noConnection))
  | .call c => answer task c

/-- Goes on with a task, to the exit code. -/
def perform (task : Program.Task) : IO UInt32 := do
  match ← Dialogue.perform (S := Tool.signature) refuse (Program.planOf task (← now)) with
  | none => pure 1
  | some (.error e) =>
    IO.eprint e.report
    pure 1
  | some (.ok plan) =>
    let launch := Attempt.launch plan (plan.rounds + 2)
    match ← Dialogue.perform (S := Attempt.signature) (reply task) launch with
    | some outcome => pure (Program.exitCode outcome).toUInt32
    | none => pure 1

end AgentLaunch.CommandLine

open AgentLaunch in
def main (arguments : List String) : IO UInt32 := do
  let dirs : Configuration.UserDirs := {
    home := (← IO.getEnv "HOME").filter (!·.isEmpty)
    configHome := ← IO.getEnv "XDG_CONFIG_HOME"
    dataHome := ← IO.getEnv "XDG_DATA_HOME" }
  let path := match Arguments.read arguments with
    | .ok arguments => Program.configurationPath dirs arguments
    | .error _ => dirs.configPath
  let files ← CommandLine.snapshot (← IO.currentDir).toString [path]
  match Program.prepare dirs arguments files with
  | (.ends ending, files) =>
    CommandLine.store "" files.root
    IO.print ending.output
    IO.eprint ending.diagnostics
    pure ending.exitCode.toUInt32
  | (.begins task, files) =>
    CommandLine.store "" files.root
    CommandLine.perform task
