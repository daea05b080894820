import AgentLaunch.Files.Error
import AgentLaunch.Files.Path
import AgentLaunch.Text.Utf8

/-!
# File trees

Directories and files as one tree, with a current directory in it, and the operations on them that
configurations need.  Each operation gives the error that a Unix system gives: a name that is
missing on the way, a file where a directory is needed, a directory where a file is needed.
-/

namespace AgentLaunch

inductive FileTree where
  | file (contents : Bytes)
  | dir (entries : List (String × FileTree))
  deriving Inhabited

namespace FileTree

def isDir : FileTree → Bool
  | dir _ => true
  | file _ => false

def find? : List String → FileTree → Option FileTree
  | [], t => some t
  | name :: rest, dir entries => (entries.lookup name).bind (find? rest)
  | _ :: _, file _ => none

/-- The tree with something put under some names; directories are made on the way, and a file on the
way stays. -/
def put (t : FileTree) : List String → FileTree → FileTree
  | [], new => new
  | name :: rest, new =>
    match t with
    | file contents => file contents
    | dir entries =>
      let inner := put ((entries.lookup name).getD (dir [])) rest new
      dir (entries.filter (·.1 != name) ++ [(name, inner)])

end FileTree

/-- A file tree and the current directory in it. -/
structure FileSystem where
  root : FileTree := .dir []
  /-- The names of the current directory, from the root. -/
  current : List String := []
  deriving Inhabited

namespace FileSystem

/-- No name is longer than this, in bytes. -/
def nameLimit : Nat := 255

/-! ## Finding things -/

/-- One step down, or up, from a directory. -/
def descend (fs : FileSystem) (place : List String) (name : String) :
    Except FileError (List String) :=
  match fs.root.find? place with
  | none => .error .notFound
  | some (.file _) => .error .notDirectory
  | some (.dir entries) =>
    if name = "." then .ok place
    else if name = ".." then .ok place.dropLast
    else if nameLimit < name.utf8ByteSize then .error .nameTooLong
    else if (entries.lookup name).isSome then .ok (place ++ [name])
    else .error .notFound

def start (fs : FileSystem) (path : String) : List String :=
  if Path.isAbsolute path then [] else fs.current

/-- A path that may be looked up at all. -/
def checked (path : String) : Except FileError Unit :=
  if path.toList.contains '\x00' then .error .nulByte
  else if path.isEmpty then .error .notFound
  else .ok ()

/-- The names from the root of what a path stands for. -/
def locate (fs : FileSystem) (path : String) : Except FileError (List String) := do
  checked path
  let place ← (Path.names path).foldlM fs.descend (fs.start path)
  match fs.root.find? place with
  | some (.file _) => if Path.endsWithSlash path then .error .notDirectory else pure place
  | _ => pure place

def contains (fs : FileSystem) (path : String) : Bool :=
  (fs.locate path).isOk

def isDirectory (fs : FileSystem) (path : String) : Bool :=
  match fs.locate path with
  | .ok place => ((fs.root.find? place).map FileTree.isDir).getD false
  | .error _ => false

/-! ## Reading -/

def read (fs : FileSystem) (path : String) : Except FileError Bytes := do
  match fs.root.find? (← fs.locate path) with
  | some (.file contents) => pure contents
  | some (.dir _) => .error .isDirectory
  | none => .error .notFound

def readText (fs : FileSystem) (path : String) : Except FileError String := do
  match Utf8.decode? (← fs.read path) with
  | some text => pure text
  | none => .error .notText

/-! ## Writing -/

def put (fs : FileSystem) (place : List String) (t : FileTree) : FileSystem :=
  { fs with root := fs.root.put place t }

/-- The directory in which the last name of a path lies, and that name; no name if the path is the
root. -/
def locateParent (fs : FileSystem) (path : String) :
    Except FileError (List String × Option String) := do
  checked path
  let names := Path.names path
  let place ← names.dropLast.foldlM fs.descend (fs.start path)
  pure (place, names.getLast?)

def write (fs : FileSystem) (path : String) (contents : Bytes) : Except FileError FileSystem := do
  let (place, name?) ← fs.locateParent path
  match name? with
  | none => .error .isDirectory
  | some name =>
    match fs.descend place name with
    | .ok target =>
      if Path.endsWithSlash path then .error .isDirectory
      else
        match fs.root.find? target with
        | some (.file _) => pure (fs.put target (.file contents))
        | _ => .error .isDirectory
    | .error .notFound =>
      if Path.endsWithSlash path then .error .isDirectory
      else if ((fs.root.find? place).map FileTree.isDir).getD false then
        pure (fs.put (place ++ [name]) (.file contents))
      else .error .notFound
    | .error e => .error e

def makeDir (fs : FileSystem) (path : String) : Except FileError FileSystem := do
  let (place, name?) ← fs.locateParent path
  match name? with
  | none => .error .alreadyExists
  | some name =>
    match fs.descend place name with
    | .ok _ => .error .alreadyExists
    | .error .notFound =>
      if ((fs.root.find? place).map FileTree.isDir).getD false then
        pure (fs.put (place ++ [name]) (.dir []))
      else .error .notFound
    | .error e => .error e

def ensureDir (fs : FileSystem) (path : String) : Except FileError FileSystem :=
  match fs.makeDir path with
  | .ok fs => .ok fs
  | .error e => if fs.isDirectory path then .ok fs else .error e

/-- The path of some components, given last one first. -/
def pathOf (absolute : Bool) (reversed : List String) : String :=
  (if absolute then "/" else "") ++ "/".intercalate reversed.reverse

/-- Makes a directory and those it lies in, as far as they are missing.  Its components are given
last one first. -/
def makeDirsFrom (fs : FileSystem) (absolute : Bool) : List String → Except FileError FileSystem
  | [] => .ok fs
  | name :: parents =>
    let path := pathOf absolute (name :: parents)
    match fs.makeDir path with
    | .ok fs => .ok fs
    | .error .notFound => do
      let fs ← makeDirsFrom fs absolute parents
      fs.ensureDir path
    | .error e => if fs.isDirectory path then .ok fs else .error e

def makeDirs (fs : FileSystem) (path : String) : Except FileError FileSystem :=
  if path.toList.contains '\x00' then .error .nulByte
  else fs.makeDirsFrom (Path.isAbsolute path) (Path.components path).reverse

end FileSystem

end AgentLaunch
