import AgentLaunch.Text.Utf8

/-!
# Progress messages

What people get to read of an attempt is a list of lines.  A remote command's output becomes lines
too.  It comes in reads that may end anywhere, in the middle of a line or of a character; what a
read leaves of a line waits for the next one.  Each line is decoded on its own, and its end is
dropped.  Output that fails in the middle has shown the lines that were complete by then.
-/

namespace AgentLaunch

/-- The output of a command: what its reads give, and the error that ends it, if one does. -/
structure CommandOutput where
  /-- What each read gives.  A read without bytes would be the end, so none of them is empty. -/
  chunks : List Bytes := []
  failure : Option String := none
  deriving DecidableEq, Repr, Inhabited

namespace Progress

def warning (message : String) : String :=
  "WARNING: " ++ message

/-! ## Lines of output -/

/-- The bytes up to and including the first line feed, and what comes after it; none if there is
no line feed. -/
def cutLine? : Bytes → Option (Bytes × Bytes)
  | [] => none
  | b :: bs =>
    if b = 0x0A then some ([b], bs)
    else (cutLine? bs).map fun (line, rest) => (b :: line, rest)

theorem cutLine?_length {bs line rest : Bytes} (h : cutLine? bs = some (line, rest)) :
    rest.length < bs.length := by
  induction bs generalizing line rest with
  | nil => simp [cutLine?] at h
  | cons b bs ih =>
    simp only [cutLine?] at h
    split at h
    · simp only [Option.some.injEq, Prod.mk.injEq] at h
      simp [h.2]
    · obtain ⟨⟨l, r⟩, hr, heq⟩ := Option.map_eq_some_iff.1 h
      simp only [Prod.mk.injEq] at heq
      have := ih hr
      rw [← heq.2, List.length_cons]
      omega

/-- The lines of a byte string that a line feed ends, each with it, and the bytes after the last
one. -/
def cutLines (bs : Bytes) : List Bytes × Bytes :=
  match h : cutLine? bs with
  | none => ([], bs)
  | some (line, rest) =>
    have := cutLine?_length h
    let more := cutLines rest
    (line :: more.1, more.2)
  termination_by bs.length

/-- The lines that one more read completes, each with its line feed, and the bytes of the line that
it leaves unfinished; `pending` is what earlier reads have left of the first one. -/
def takeRead (pending read : Bytes) : List Bytes × Bytes :=
  match cutLines read with
  | ([], rest) => ([], pending ++ rest)
  | (line :: lines, rest) => ((pending ++ line) :: lines, rest)

/-- The lines that some reads complete, each with its line feed, and the bytes after the last
one. -/
def readLines (pending : Bytes) : List Bytes → List Bytes × Bytes
  | [] => ([], pending)
  | read :: reads =>
    let (lines, rest) := takeRead pending read
    let (more, last) := readLines rest reads
    (lines ++ more, last)

/-- A line as it is shown: decoded, and without the line end. -/
def shownLine (line : Bytes) : String :=
  let cs := Utf8.decodeLossyChars line
  String.ofList (cs.reverse.dropWhile fun c => c == '\r' || c == '\n').reverse

/-- The lines that an output shows.  The last one may lack its line feed, unless the output
failed. -/
def linesOf (output : CommandOutput) : List String :=
  let (lines, rest) := readLines [] output.chunks
  let last := if rest.isEmpty || output.failure.isSome then [] else [rest]
  (lines ++ last).map shownLine

end Progress

end AgentLaunch
