import AgentLaunch.Windows.Argument

/-!
# Working directories

Everything an attempt puts on the remote host lies in one directory.  It always ends with a path
separator, so that the path of a file in it is the directory followed by the file's name.

There are three such files: the init script, the marker of its success, and the agent.  The
directory may be configured with a slash or a backslash at its end, or without either, and then a
backslash is added; other slashes in it are left alone.  In commands the directory stands as
`quoted`.
-/

namespace AgentLaunch

/-- A directory as text, with a backslash added unless it ends with a separator. -/
def ensureTrailingSeparator (dir : String) : String :=
  match dir.toList.getLast? with
  | some '\\' => dir
  | some '/' => dir
  | _ => dir ++ "\\"

structure WorkDir where
  path : String
  deriving DecidableEq, Repr, Inhabited

namespace WorkDir

def standard : WorkDir := ⟨"C:\\Windows\\Temp\\"⟩

def initScriptFile : String := "init.bat"

/-- The file that shows that the init script has succeeded in this directory. -/
def initMarkerFile : String := ".kuiper-init"

def initMarkerText : String := "init ran"

def agentFile : String := "agent.jar"

/-- The configured directory, or the standard one if nothing but blanks is configured.  It loses the
blanks at its ends and gets a separator if it lacks one. -/
def resolve (configured : Option String) : WorkDir :=
  match configured.bind Text.trimmed? with
  | some dir => ⟨ensureTrailingSeparator dir⟩
  | none => standard

def join (dir : WorkDir) (name : String) : String :=
  dir.path ++ name

def quoted (dir : WorkDir) : String :=
  Windows.quote dir.path

end WorkDir

end AgentLaunch
