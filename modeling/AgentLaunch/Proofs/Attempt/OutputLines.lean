import AgentLaunch.Attempt.Preparation
import AgentLaunch.Proofs.Attempt.Script
import AgentLaunch.Proofs.Text.Lossy
import Mathlib.Data.List.DropRight

/-!
# The lines of an output

An output comes in reads, and it is decoded one line at a time.  Neither can be seen in what is
shown: the lines are those of the whole output, decoded at once and split at its line feeds.

* `readLines_eq_cutLines` — reads are taken in as if they were one.
* `linesOf_eq` — cut, then decoded, and decoded, then split, are the same lines.
* **`transcript_showOutput_iff`** — what is written about an output, and with which result,
  whichever way it comes and ends.

Cutting bytes into lines and decoding them can be exchanged because a line feed is one byte that no
other character has in its encoding.  A decoder that has gone wrong before a line feed starts afresh
behind it, so even lossy decoding splits there.  The proofs go by `linesInduction`: byte strings are
either free of line feeds, or one such string with a line feed and a byte string behind it.

Of an output that fails, the bytes after the last line feed are never shown, and of one that comes
to its end they are shown unless there are none.  Hence the two kinds of pieces, `wholePieces` and
`endedPieces`; everything before the last line feed is the same for both.
-/

namespace AgentLaunch.Progress

/-! ## Line by line -/

/-- Byte strings by their lines: one without a line feed, or one more line in front. -/
lemma linesInduction {motive : Bytes → Prop} (last : ∀ bs, 0x0A ∉ bs → motive bs)
    (line : ∀ front rest, 0x0A ∉ front → motive rest → motive (front ++ 0x0A :: rest))
    (bs : Bytes) : motive bs := by
  induction hlen : bs.length using Nat.strongRecOn generalizing bs with
  | _ n ih =>
      by_cases hbs : 0x0A ∈ bs
      · obtain ⟨front, rest, rfl, hfront⟩ := List.eq_append_cons_of_mem hbs
        rw [List.length_append, List.length_cons] at hlen
        exact line front rest hfront (ih rest.length (by omega) rest rfl)
      · exact last bs hbs

section Cut

variable {bs front : Bytes}

lemma cutLine?_of_not_mem (hbs : 0x0A ∉ bs) : cutLine? bs = none := by
  induction bs with
  | nil => rfl
  | cons b bs ih =>
      rw [List.mem_cons, not_or] at hbs
      rw [cutLine?, if_neg (Ne.symm hbs.1), ih hbs.2, Option.map_none]

lemma cutLine?_append_cons (hfront : 0x0A ∉ front) (rest : Bytes) :
    cutLine? (front ++ 0x0A :: rest) = some (front ++ [0x0A], rest) := by
  induction front with
  | nil => rfl
  | cons b front ih =>
      rw [List.mem_cons, not_or] at hfront
      rw [List.cons_append, cutLine?, if_neg (Ne.symm hfront.1), ih hfront.2, Option.map_some,
        List.cons_append]

@[simp] lemma cutLines_of_not_mem (hbs : 0x0A ∉ bs) : cutLines bs = ([], bs) := by
  have hcut := cutLine?_of_not_mem hbs
  rw [cutLines]
  split
  · rfl
  · next h => rw [hcut] at h; cases h

@[simp] lemma cutLines_append_cons (hfront : 0x0A ∉ front) (rest : Bytes) :
    cutLines (front ++ 0x0A :: rest)
      = ((front ++ [0x0A]) :: (cutLines rest).1, (cutLines rest).2) := by
  have hcut := cutLine?_append_cons hfront rest
  rw [cutLines]
  split
  · next h => rw [hcut] at h; cases h
  · next line tail h =>
    rw [hcut] at h
    obtain ⟨rfl, rfl⟩ := Prod.mk.inj (Option.some.inj h)
    rfl

end Cut

/-! ## Reads -/

lemma lineFeed_not_mem_cutLines (bs : Bytes) : 0x0A ∉ (cutLines bs).2 := by
  induction bs using linesInduction with
  | last bs hbs => simp [hbs]
  | line front rest hfront ih => simpa [hfront] using ih

/-- Bytes that follow what has been cut only add to what was left of it. -/
lemma cutLines_append (bs more : Bytes) :
    cutLines (bs ++ more)
      = ((cutLines bs).1 ++ (cutLines ((cutLines bs).2 ++ more)).1,
          (cutLines ((cutLines bs).2 ++ more)).2) := by
  induction bs using linesInduction with
  | last bs hbs => simp [hbs]
  | line front rest hfront ih =>
      rw [List.append_assoc, List.cons_append, cutLines_append_cons hfront,
        cutLines_append_cons hfront, ih, List.cons_append]

section Reads

variable {pending : Bytes}

/-- A read is taken in as if what was left before it had come with it. -/
lemma takeRead_eq_cutLines (hpending : 0x0A ∉ pending) (read : Bytes) :
    takeRead pending read = cutLines (pending ++ read) := by
  unfold takeRead
  induction read using linesInduction with
  | last read hread =>
      have hboth : 0x0A ∉ pending ++ read := by simp [hpending, hread]
      rw [cutLines_of_not_mem hread, cutLines_of_not_mem hboth]
  | line front rest hfront _ =>
      have hboth : 0x0A ∉ pending ++ front := by simp [hpending, hfront]
      rw [cutLines_append_cons hfront, ← List.append_assoc, cutLines_append_cons hboth,
        List.append_assoc]

/-- **It does not matter where one read ends and the next one starts.** -/
lemma readLines_eq_cutLines (hpending : 0x0A ∉ pending) (reads : List Bytes) :
    readLines pending reads = cutLines (pending ++ reads.flatten) := by
  induction reads generalizing pending with
  | nil => rw [readLines, List.flatten_nil, List.append_nil, cutLines_of_not_mem hpending]
  | cons read reads ih =>
      have hrest := lineFeed_not_mem_cutLines (pending ++ read)
      rw [readLines, takeRead_eq_cutLines hpending]
      simp only [ih hrest]
      rw [List.flatten_cons, ← List.append_assoc, cutLines_append (pending ++ read)]

end Reads

/-! ## The pieces of the whole output -/

/-- The pieces of a decoded output, with a line feed between any two. -/
def pieces (bs : Bytes) : List (List Char) :=
  (Utf8.decodeLossyChars bs).splitOn '\n'

/-- The pieces, without the last one if it is empty. -/
def wholePieces (bs : Bytes) : List (List Char) :=
  if (pieces bs).getLast? = some [] then (pieces bs).dropLast else pieces bs

/-- The pieces that a line feed ends: from the first one on, one for each line feed. -/
def endedPieces (bs : Bytes) : List (List Char) :=
  (pieces bs).take (bs.count 0x0A)

/-- A piece without the carriage returns at its end. -/
def stripped (piece : List Char) : String :=
  String.ofList (piece.rdropWhile (· == '\r'))

lemma pieces_ne_nil (bs : Bytes) : pieces bs ≠ [] :=
  List.splitOn_ne_nil _ _

section Pieces

variable {bs front : Bytes}

lemma pieces_of_not_mem (hbs : 0x0A ∉ bs) : pieces bs = [Utf8.decodeLossyChars bs] :=
  List.splitOn_eq_singleton (Utf8.lineFeed_not_mem_decodeLossyChars hbs)

lemma pieces_append_cons (hfront : 0x0A ∉ front) (rest : Bytes) :
    pieces (front ++ 0x0A :: rest) = Utf8.decodeLossyChars front :: pieces rest := by
  have hdecoded := Utf8.lineFeed_not_mem_decodeLossyChars hfront
  have hother : ∀ c ∈ Utf8.decodeLossyChars front, (c == '\n') = false := by
    intro c hc
    exact beq_false_of_ne fun h => hdecoded (h ▸ hc)
  rw [pieces, Utf8.decodeLossyChars_append_lineFeed]
  exact List.splitOnP_append_cons_of_forall_mem hother '\n' (beq_self_eq_true _) _

lemma wholePieces_append_cons (hfront : 0x0A ∉ front) (rest : Bytes) :
    wholePieces (front ++ 0x0A :: rest) = Utf8.decodeLossyChars front :: wholePieces rest := by
  have hrest := pieces_ne_nil rest
  rw [wholePieces, wholePieces, pieces_append_cons hfront, List.getLast?_cons_of_ne_nil hrest,
    List.dropLast_cons_of_ne_nil hrest]
  split <;> rfl

lemma endedPieces_append_cons (hfront : 0x0A ∉ front) (rest : Bytes) :
    endedPieces (front ++ 0x0A :: rest) = Utf8.decodeLossyChars front :: endedPieces rest := by
  have hcount : (front ++ 0x0A :: rest).count 0x0A = rest.count 0x0A + 1 := by
    rw [List.count_append, List.count_eq_zero.mpr hfront, List.count_cons_self, Nat.zero_add]
  rw [endedPieces, endedPieces, pieces_append_cons hfront, hcount, List.take_succ_cons]

/-! ## Shown one by one -/

/-- Where there is no line feed, only carriage returns are dropped. -/
lemma rdropWhile_lineEnd {cs : List Char} (hcs : '\n' ∉ cs) :
    cs.rdropWhile (fun c => c == '\r' || c == '\n') = cs.rdropWhile (· == '\r') := by
  induction cs using List.reverseRecOn with
  | nil => rfl
  | append_singleton cs c ih =>
      rw [List.mem_append, List.mem_singleton, not_or] at hcs
      have hc : (c == '\n') = false := beq_false_of_ne (Ne.symm hcs.2)
      rw [List.rdropWhile_concat, List.rdropWhile_concat, hc, Bool.or_false, ih hcs.1]

lemma shownLine_of_not_mem (hbs : 0x0A ∉ bs) :
    shownLine bs = stripped (Utf8.decodeLossyChars bs) :=
  congrArg String.ofList (rdropWhile_lineEnd (Utf8.lineFeed_not_mem_decodeLossyChars hbs))

lemma shownLine_ended (hfront : 0x0A ∉ front) :
    shownLine (front ++ [0x0A]) = stripped (Utf8.decodeLossyChars front) := by
  have hdecoded : Utf8.decodeLossyChars (front ++ [0x0A])
      = Utf8.decodeLossyChars front ++ ['\n'] := by
    rw [Utf8.decodeLossyChars_append_lineFeed]
    simp [Utf8.decodeLossyChars, Utf8.segments]
  refine congrArg String.ofList ?_
  show (Utf8.decodeLossyChars (front ++ [0x0A])).rdropWhile _ = _
  rw [hdecoded, List.rdropWhile_concat, if_pos (by decide)]
  exact rdropWhile_lineEnd (Utf8.lineFeed_not_mem_decodeLossyChars hfront)

end Pieces

/-- The lines that are complete show the pieces that a line feed ends. -/
lemma map_shownLine_cutLines (bs : Bytes) :
    (cutLines bs).1.map shownLine = (endedPieces bs).map stripped := by
  induction bs using linesInduction with
  | last bs hbs => simp [hbs, endedPieces, List.count_eq_zero.mpr hbs]
  | line front rest hfront ih =>
      rw [cutLines_append_cons hfront, endedPieces_append_cons hfront, List.map_cons,
        List.map_cons, shownLine_ended hfront, ih]

/-- With what is left at the end, unless it is nothing, they show all of them. -/
lemma map_shownLine_cutLines_last (bs : Bytes) :
    ((cutLines bs).1 ++ if (cutLines bs).2.isEmpty then [] else [(cutLines bs).2]).map shownLine
      = (wholePieces bs).map stripped := by
  induction bs using linesInduction with
  | last bs hbs =>
      rw [cutLines_of_not_mem hbs, wholePieces, pieces_of_not_mem hbs]
      cases bs with
      | nil => simp [Utf8.decodeLossyChars, Utf8.segments]
      | cons b bs =>
          have hsome : Utf8.decodeLossyChars (b :: bs) ≠ [] := by
            rw [Utf8.decodeLossyChars, Utf8.segments]
            simp
          simp [hsome, shownLine_of_not_mem hbs]
  | line front rest hfront ih =>
      rw [cutLines_append_cons hfront, wholePieces_append_cons hfront, List.cons_append,
        List.map_cons, List.map_cons, shownLine_ended hfront, ih]

/-- What an output that comes to its end shows, and what one shows that fails. -/
lemma linesOf_eq (output : CommandOutput) :
    linesOf output = (if output.failure.isSome then endedPieces output.chunks.flatten
      else wholePieces output.chunks.flatten).map stripped := by
  unfold linesOf
  rw [readLines_eq_cutLines List.not_mem_nil, List.nil_append]
  cases output.failure with
  | none => simpa using map_shownLine_cutLines_last output.chunks.flatten
  | some text => simpa using map_shownLine_cutLines output.chunks.flatten

end AgentLaunch.Progress

namespace AgentLaunch.Attempt

open Dialogue Progress

/-- **An output is shown as a whole.**  Whichever way it is cut into reads, an output that comes to
its end leaves the lines of the whole of it, decoded and split at line feeds, without the last one
if that is empty; an output that fails leaves the lines that a line feed ends, and its error.  The
carriage returns at the end of a line are dropped. -/
theorem transcript_showOutput_iff {process : ProcessId} {es : List Event}
    {o : Option (Except LaunchError Unit)} :
    Transcript (showOutput process).run es o
      ↔ ∃ output : CommandOutput, match output.failure with
        | none =>
          es = called (.readOutput process) output
              :: (wholePieces output.chunks.flatten).map (said ∘ stripped)
            ∧ o = some (.ok ())
        | some text =>
          es = called (.readOutput process) output
              :: (endedPieces output.chunks.flatten).map (said ∘ stripped)
            ∧ o = some (.error (.io text)) := by
  unfold showOutput
  rw [transcript_stage_call_bind_iff]
  refine exists_congr fun output => ?_
  simp only [transcript_logAll_bind_iff, linesOf_eq, List.map_map]
  cases output.failure with
  | none =>
      simp only [transcript_run_pure_iff]
      simp [and_comm]
  | some text =>
      simp only [transcript_run_throw_iff]
      simp [and_comm]

end AgentLaunch.Attempt
