/-!
# Command line arguments

The program takes four options, each with a value, and the usual flags for help and version.  The
value of an option stands in the same argument (`--name=x`, `-cx`, `-c=x`) or is the next argument.
An argument that starts with a minus sign is never such a next value, except `-` itself.

Arguments are read from left to right.  An option is *settled*, that is entered among the given
ones and checked, only when something later requires it: the next option or flag, or the end.  An
unknown argument is reported at once, so it hides what is wrong with an option before it.
-/

namespace AgentLaunch

/-- What the program is asked to do. -/
structure Arguments where
  /-- The configuration file, if it is not the usual one. -/
  config : Option String := none
  instanceId : String
  name : Option String := none
  launchedAt : Option String := none
  deriving DecidableEq, Repr, Inhabited

namespace Arguments

/-- An option, which has a value. -/
inductive Key where
  | config
  | instanceId
  | name
  | launchedAt
  deriving DecidableEq, Repr

/-- A flag, which has none. -/
inductive Flag where
  | help
  | version
  deriving DecidableEq, Repr

/-- Why reading the arguments ends without a task. -/
inductive Stop where
  | helpWanted
  | versionWanted
  /-- An option without a value, or with one that it does not take. -/
  | invalidValue
  | unknownArgument
  | repeatedOption
  /-- A flag with a value. -/
  | unneededValue
  | missingInstanceId
  deriving DecidableEq, Repr

/-! ## One argument -/

/-- The shape of an argument. -/
inductive Word where
  /-- `--`, after which no option is expected. -/
  | escape
  /-- `--name` or `--name=value`. -/
  | long (name : List Char) (value : Option String)
  /-- A minus sign and some letters. -/
  | short (letters : List Char)
  /-- Anything else. -/
  | plain
  deriving DecidableEq, Repr

/-- The name before the first equals sign, and the value after it if there is one. -/
def cutAtEquals : List Char → List Char × Option String
  | [] => ([], none)
  | '=' :: value => ([], some (String.ofList value))
  | c :: rest =>
    let (name, value) := cutAtEquals rest
    (c :: name, value)

def Word.ofString (argument : String) : Word :=
  match argument.toList with
  | ['-', '-'] => .escape
  | '-' :: '-' :: rest =>
    let (name, value) := cutAtEquals rest
    .long name value
  | ['-'] => .plain
  | '-' :: letters => .short letters
  | _ => .plain

def Key.ofName? (name : List Char) : Option Key :=
  match String.ofList name with
  | "config" => some config
  | "instance-id" => some instanceId
  | "name" => some .name
  | "launched-at" => some launchedAt
  | _ => none

def Flag.ofName? (name : List Char) : Option Flag :=
  match String.ofList name with
  | "help" => some help
  | "version" => some version
  | _ => none

def Key.ofLetter? (letter : Char) : Option Key :=
  if letter = 'c' then some config else none

def Flag.ofLetter? (letter : Char) : Option Flag :=
  if letter = 'h' then some help else if letter = 'V' then some version else none

/-- Whether an option takes a value.  Only a path must not be empty. -/
def Key.takes (key : Key) (value : String) : Bool :=
  key ≠ config || !value.isEmpty

def Flag.stop : Flag → Stop
  | help => .helpWanted
  | version => .versionWanted

/-! ## From left to right -/

structure Reading where
  /-- The settled options. -/
  given : List (Key × String) := []
  /-- The option that is not settled yet, and its value if it has come already. -/
  pending : Option (Key × Option String) := none
  deriving DecidableEq, Repr, Inhabited

namespace Reading

def enter (r : Reading) (key : Key) (value : String) : Except Stop Reading :=
  if (r.given.lookup key).isSome then .error .repeatedOption
  else if key.takes value then .ok { r with given := r.given ++ [(key, value)] }
  else .error .invalidValue

def settle (r : Reading) : Except Stop Reading :=
  match r.pending with
  | none => .ok r
  | some (_, none) => .error .invalidValue
  | some (key, some value) => { r with pending := none }.enter key value

/-- Goes on after an option, whose value may be in the same argument. -/
def option (r : Reading) (key : Key) (value : Option String) : Except Stop Reading := do
  let r ← r.settle
  match value with
  | some value => r.enter key value
  | none => .ok { r with pending := some (key, none) }

def flag (r : Reading) (flag : Flag) : Except Stop Reading := do
  let _ ← r.settle
  .error flag.stop

def long (r : Reading) (name : List Char) (value : Option String) : Except Stop Reading :=
  match Key.ofName? name, Flag.ofName? name, value with
  | some key, _, _ => r.option key value
  | none, some flag, none => r.flag flag
  | none, some _, some _ => .error .unneededValue
  | none, none, _ => .error .unknownArgument

/-- Goes on after letters: what follows the letter of an option is its value. -/
def short (r : Reading) : List Char → Except Stop Reading
  | [] => .ok r
  | letter :: rest =>
    match Key.ofLetter? letter, Flag.ofLetter? letter with
    | some key, _ =>
      match rest with
      | [] => r.option key none
      | '=' :: value => r.option key (some (String.ofList value))
      | value => r.option key (some (String.ofList value))
    | none, some flag => r.flag flag
    | none, none => .error .unknownArgument

/-- Goes on after an argument that is neither: it has to be the value of the pending option. -/
def plain (r : Reading) (argument : String) : Except Stop Reading :=
  match r.pending with
  | some (key, none) => .ok { r with pending := some (key, some argument) }
  | _ => .error .unknownArgument

def readAll (r : Reading) : List String → Except Stop Reading
  | [] => r.settle
  | argument :: rest =>
    match Word.ofString argument with
    | .escape => if rest.isEmpty then r.settle else .error .unknownArgument
    | .long name value => do readAll (← r.long name value) rest
    | .short letters => do readAll (← r.short letters) rest
    | .plain => do readAll (← r.plain argument) rest

end Reading

def read (arguments : List String) : Except Stop Arguments := do
  let r ← Reading.readAll {} arguments
  match r.given.lookup .instanceId with
  | none => .error .missingInstanceId
  | some instanceId =>
    .ok {
      config := r.given.lookup .config
      instanceId
      name := r.given.lookup .name
      launchedAt := r.given.lookup .launchedAt }

end Arguments

end AgentLaunch
