import AgentLaunch.Text.Base64
import AgentLaunch.Text.Utf8
import AgentLaunch.Windows.PowerShell

/-!
# Uploading a file

A file is written by a script on the remote host that reads lines of Base64 text from its input and
appends the bytes of each line to the file.  The contents are cut into chunks of equal length, a
shorter one at the end, and every chunk is sent as one line.

A line ends in a carriage return and a line feed.  Base64 has neither, so the lines need no further
care, and since a chunk has a length that is divisible by three only the last line can be padded.
The path of the file stands in the script as a literal.
-/

namespace AgentLaunch.Ssh.Upload

def chunkLength : Nat := 48 * 1024

/-- Bytes cut into chunks of a length, of which the last may be shorter; none is empty. -/
def chunks (length : Nat) (bs : Bytes) : List Bytes :=
  if bs = [] ∨ length = 0 then []
  else bs.take length :: chunks length (bs.drop length)
termination_by bs.length
decreasing_by
  rename_i h
  rw [not_or] at h
  have := List.length_pos_iff.2 h.1
  simp only [List.length_drop]
  omega

def line (chunk : Bytes) : Bytes :=
  Utf8.encode (String.ofList (Base64.encode chunk ++ ['\x0d', '\n']))

def lines (contents : Bytes) : List Bytes :=
  (chunks chunkLength contents).map line

/-- The script that makes the file on the remote host.  It creates the file before it reads the
first line, so that no line at all makes an empty one. -/
def script (path : String) : String :=
  "$o=[IO.File]::Create(" ++ PowerShell.literal path
    ++ ");while(($l=[Console]::In.ReadLine()) -ne $null)\x7b"
    ++ "$b=[Convert]::FromBase64String($l);$o.Write($b,0,$b.Length)\x7d;$o.Close()"

def command (path : String) : String :=
  PowerShell.invocation (script path)

end AgentLaunch.Ssh.Upload
