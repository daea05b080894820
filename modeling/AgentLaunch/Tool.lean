import AgentLaunch.Dialogue
import AgentLaunch.Text.Blank
import AgentLaunch.Text.Utf8

/-!
# Other programs

What the launcher does through other programs is a dialogue about *runs* of them: a program is
started with arguments and perhaps some input, and has ended when the reply comes.  A program that
cannot be started at all is a trouble of the operating system, not of the program.

A run that has ended tells whether it was successful, and has its whole output and its complaints;
none of these is looked at before the end.
-/

namespace AgentLaunch

namespace Tool

structure Invocation where
  program : String
  arguments : List String
  /-- What the program can read; none if it is given nothing. -/
  input : Option Bytes := none
  deriving DecidableEq, Repr

structure Ending where
  /-- The program says that all went well. -/
  succeeded : Bool := true
  stdout : Bytes := []
  stderr : Bytes := []
  deriving DecidableEq, Repr, Inhabited

inductive StartError where
  | notFound
  /-- Its name or an argument holds a NUL byte. -/
  | nulByte
  deriving DecidableEq, Repr

def StartError.text : StartError → String
  | notFound => "No such file or directory (os error 2)"
  | nulByte => "nul byte found in provided data"

def signature : Signature where
  Request := Invocation
  Reply _ := Except StartError Ending

def invoke (i : Invocation) : Dialogue signature (Except StartError Ending) :=
  Dialogue.request (S := signature) i

/-- What a program says about its failure, for people to read. -/
def Ending.complaint (e : Ending) : String :=
  Text.trim (Utf8.decodeLossy e.stderr)

end Tool

/-- What is done through other programs. -/
abbrev Errand := Dialogue Tool.signature

end AgentLaunch
