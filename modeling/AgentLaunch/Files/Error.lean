/-!
# Errors of files

Why an operation on files failed, and the text that the operating system has for it.

Errors that a program meets on a system it is installed on are left out, such as missing permissions
and a disk without space: a file system of this model has room for everything and forbids nothing.
-/

namespace AgentLaunch

/-- Why an operation on files failed. -/
inductive FileError where
  | notFound
  | alreadyExists
  | notDirectory
  | isDirectory
  | nameTooLong
  /-- The path holds a NUL byte. -/
  | nulByte
  /-- The file was to be read as text and is none. -/
  | notText
  deriving DecidableEq, Repr, Inhabited

def FileError.text : FileError → String
  | notFound => "No such file or directory (os error 2)"
  | alreadyExists => "File exists (os error 17)"
  | notDirectory => "Not a directory (os error 20)"
  | isDirectory => "Is a directory (os error 21)"
  | nameTooLong => "File name too long (os error 36)"
  | nulByte => "file name contained an unexpected NUL byte"
  | notText => "stream did not contain valid UTF-8"

end AgentLaunch
