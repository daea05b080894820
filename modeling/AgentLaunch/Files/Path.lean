/-!
# Paths

A path is a text: names separated by slashes, absolute if it starts with one.  Repeated slashes
count as one.  A trailing slash says that a directory is meant, and `.` stands for where one is.

Taking a path apart never looks at any files.  So `..` has to stay where it is: what it leads to
depends on the tree, and only the tree can follow it.
-/

namespace AgentLaunch.Path

def namesFrom (name : List Char) : List Char → List String
  | [] => if name.isEmpty then [] else [String.ofList name.reverse]
  | c :: cs =>
    if c = '/' then
      (if name.isEmpty then [] else [String.ofList name.reverse]) ++ namesFrom [] cs
    else namesFrom (c :: name) cs

/-- The names of a path, `.` and `..` among them. -/
def names (path : String) : List String :=
  namesFrom [] path.toList

def isAbsolute (path : String) : Bool :=
  path.toList.head? == some '/'

def endsWithSlash (path : String) : Bool :=
  path.toList.getLast? == some '/'

/-- The names of a path that matter: without every `.` that is not its start.  A `..` stays, since
what it leads to depends on the tree. -/
def components (path : String) : List String :=
  match isAbsolute path, names path with
  | false, "." :: rest => "." :: rest.filter (· ≠ ".")
  | _, all => all.filter (· ≠ ".")

/-- The path without its last component; none if it has none. -/
def parent? (path : String) : Option String :=
  match components path with
  | [] => none
  | all => some ((if isAbsolute path then "/" else "") ++ "/".intercalate all.dropLast)

/-- A path inside another one.  An absolute path stays as it is. -/
def join (base rest : String) : String :=
  if isAbsolute rest then rest
  else if base.isEmpty || endsWithSlash base then base ++ rest
  else base ++ "/" ++ rest

/-- A path with a leading `~/` replaced by the home directory, if there is one. -/
def expandTilde (home : Option String) (path : String) : String :=
  match path.toList, home with
  | '~' :: '/' :: rest, some home => join home (String.ofList rest)
  | _, _ => path

end AgentLaunch.Path
