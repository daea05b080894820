import AgentLaunch.Attempt.Preparation
import AgentLaunch.Proofs.Text.Blank
import AgentLaunch.Proofs.WorkDir
import AgentLaunch.Ssh.Session

/-!
# Directories before the command prompt

The commands of an attempt are read by the command prompt before any program gets its arguments.
The prompt has operators of its own, and only double quotes keep it from acting on them; backslashes
mean nothing to it.  `quote` puts quotes around a space, but not around an operator.  So a directory
with a space in its path is safe whatever else is in it, and one without is read as it stands.

* `Piece`, `written` — a command, with its paths told from its words.
* `exposed` — what the prompt reads of the paths outside quotes.
* `exposed_eq` — that is nothing of a path with a space, and all of another one.
* **`commands_expose`** — the operators that the commands over a legal directory expose.

The prompt is modelled by one bit, whether it is inside double quotes, and by the characters that it
sees outside of them.  A command is a list of pieces.  Its own words are fixed, so what matters is
what the pieces with paths add: `exposed_eq` computes it, by induction on the pieces, under the
condition that no piece leaves a quote open.

A path of legal characters has no double quote, and of the characters that `quote` looks for only
the space is legal.  So it is quoted as a whole or not at all, and the commands expose all operators
of the path or none.  `commands_expose` gives the exact list for each of the three commands over a
directory, and `ampersand_exposed` is a directory in which it is not empty.
-/

namespace AgentLaunch.Windows

/-! ## Characters -/

/-- Characters that the command prompt acts on outside double quotes. -/
def isOperator (c : Char) : Bool :=
  ['&', '|', '<', '>', '(', ')', '^'].contains c

/-- Characters that may stand in the path of a directory. -/
def isLegal (c : Char) : Bool :=
  0x20 ≤ c.toNat && !(['"', '<', '>', '|', '?', '*'].contains c)

/-- A path of legal characters. -/
def Legal (path : String) : Prop := ∀ c ∈ path.toList, isLegal c = true

instance (path : String) : Decidable (Legal path) :=
  List.decidableBAll _ _

lemma ne_quote_of_isLegal {c : Char} (h : isLegal c = true) : c ≠ '"' := by
  rintro rfl
  exact absurd h (by decide)

/-- Of the characters that force quotes, only the space is legal. -/
lemma forcesQuotes_of_isLegal {c : Char} (h : isLegal c = true) :
    forcesQuotes c = (c == ' ') := by
  have hquote : c ≠ '"' := ne_quote_of_isLegal h
  have hcontrol : ∀ d : Char, d.toNat < 0x20 → c ≠ d := by
    rintro d hd rfl
    simp only [isLegal, Bool.and_eq_true, decide_eq_true_eq] at h
    omega
  rw [forcesQuotes, beq_false_of_ne hquote, beq_false_of_ne (hcontrol '\t' (by decide)),
    beq_false_of_ne (hcontrol '\n' (by decide)), beq_false_of_ne (hcontrol '\x0b' (by decide))]
  simp only [Bool.or_false]

/-! ## Reading -/

/-- Whether a reader is inside double quotes after some characters. -/
def insideAfter (inside : Bool) (cs : List Char) : Bool :=
  cs.foldl (fun inside c => if c = '"' then !inside else inside) inside

/-- The characters that are read outside double quotes. -/
def outside (inside : Bool) : List Char → List Char
  | [] => []
  | c :: cs =>
    if c = '"' then outside (!inside) cs
    else if inside then outside inside cs
    else c :: outside inside cs

section Reading

variable {inside : Bool} {cs : List Char}

@[simp] lemma insideAfter_append (cs' : List Char) :
    insideAfter inside (cs ++ cs') = insideAfter (insideAfter inside cs) cs' :=
  List.foldl_append

lemma insideAfter_quote : insideAfter inside ('"' :: cs) = insideAfter (!inside) cs := by
  rw [insideAfter, List.foldl_cons, if_pos rfl]
  rfl

lemma outside_quote : outside inside ('"' :: cs) = outside (!inside) cs := by
  rw [outside, if_pos rfl]

lemma outside_append (cs' : List Char) :
    outside inside (cs ++ cs') = outside inside cs ++ outside (insideAfter inside cs) cs' := by
  induction cs generalizing inside with
  | nil => rfl
  | cons c cs ih =>
      rw [List.cons_append, outside, outside]
      by_cases hc : c = '"'
      · rw [if_pos hc, if_pos hc, ih, hc, insideAfter_quote]
      · have hinside : insideAfter inside (c :: cs) = insideAfter inside cs := by
          rw [insideAfter, List.foldl_cons, if_neg hc]
          rfl
        rw [if_neg hc, if_neg hc, ih, hinside]
        split <;> rfl

lemma insideAfter_of_not_mem (h : '"' ∉ cs) : insideAfter inside cs = inside := by
  induction cs with
  | nil => rfl
  | cons c cs ih =>
      rw [List.mem_cons, not_or] at h
      rw [insideAfter, List.foldl_cons, if_neg (Ne.symm h.1)]
      exact ih h.2

lemma outside_of_not_mem (h : '"' ∉ cs) : outside inside cs = if inside then [] else cs := by
  induction cs with
  | nil => cases inside <;> rfl
  | cons c cs ih =>
      rw [List.mem_cons, not_or] at h
      rw [outside, if_neg (Ne.symm h.1), ih h.2]
      cases inside <;> rfl

/-- Between its two quotes, a text without quotes of its own is written as it is, apart from the
backslashes at its end. -/
lemma quoteFrom_of_not_mem (pending : Nat) (h : '"' ∉ cs) :
    ∃ k, quoteFrom pending cs
      = List.replicate pending '\\' ++ cs ++ List.replicate k '\\' ++ ['"'] := by
  induction cs generalizing pending with
  | nil =>
      refine ⟨pending, ?_⟩
      rw [quoteFrom, Nat.mul_two, List.replicate_add, List.append_nil]
  | cons c cs ih =>
      rw [List.mem_cons, not_or] at h
      rw [quoteFrom]
      by_cases hbackslash : c = '\\'
      · obtain ⟨k, hk⟩ := ih (pending + 1) h.2
        refine ⟨k, ?_⟩
        rw [if_pos hbackslash, hk, hbackslash, List.replicate_succ']
        simp
      · obtain ⟨k, hk⟩ := ih 0 h.2
        refine ⟨k, ?_⟩
        rw [if_neg hbackslash, if_neg (Ne.symm h.1), hk]
        simp

end Reading

/-! ## Quoted paths -/

section Path

variable {cs : List Char}

/-- What the prompt reads of a path outside quotes. -/
def bareOf (cs : List Char) : List Char := if ' ' ∈ cs then [] else cs

/-- **A quoted path** leaves no quote open, and the prompt reads all of it or nothing. -/
lemma read_quoted (hne : cs ≠ []) (hlegal : ∀ c ∈ cs, isLegal c = true) :
    outside false (quoteChars cs) = bareOf cs ∧ insideAfter false (quoteChars cs) = false := by
  have hquote : '"' ∉ cs := fun hmem => ne_quote_of_isLegal (hlegal _ hmem) rfl
  have hforces : (cs.isEmpty || cs.any forcesQuotes) = true ↔ ' ' ∈ cs := by
    simp only [Bool.or_eq_true, List.isEmpty_iff, hne, false_or, List.any_eq_true]
    constructor
    · rintro ⟨c, hc, hforces⟩
      rw [forcesQuotes_of_isLegal (hlegal c hc), beq_iff_eq] at hforces
      exact hforces ▸ hc
    · intro hspace
      exact ⟨' ', hspace, rfl⟩
  unfold quoteChars bareOf
  by_cases hspace : ' ' ∈ cs
  · obtain ⟨k, hk⟩ := quoteFrom_of_not_mem 0 hquote
    have hbody : '"' ∉ List.replicate 0 '\\' ++ cs ++ List.replicate k '\\' := by
      simp [hquote]
    rw [if_pos (hforces.mpr hspace), if_pos hspace, hk]
    constructor
    · rw [outside_quote, outside_append, outside_of_not_mem hbody, insideAfter_of_not_mem hbody]
      rfl
    · rw [insideAfter_quote, insideAfter_append, insideAfter_of_not_mem hbody]
      rfl
  · rw [if_neg (mt hforces.mp hspace), if_neg hspace]
    exact ⟨outside_of_not_mem hquote, insideAfter_of_not_mem hquote⟩

end Path

/-! ## Commands -/

/-- A piece of a command: its own words, or a path. -/
inductive Piece where
  | words (text : String)
  | path (name : String)
  deriving DecidableEq, Repr

namespace Piece

/-- How a piece is written: a path is quoted. -/
def written : Piece → String
  | words text => text
  | path name => quote name

/-- What the prompt reads outside quotes of a piece, if that is a path. -/
def exposed (inside : Bool) : Piece → List Char
  | words _ => []
  | path name => outside inside (quote name).toList

/-- What a path exposes by itself. -/
def bare : Piece → List Char
  | words _ => []
  | path name => bareOf name.toList

/-- A piece as commands have it. -/
def Proper : Piece → Prop
  | words text => '"' ∉ text.toList
  | path name => name ≠ "" ∧ Legal name

end Piece

/-- A command, from its pieces. -/
def written : List Piece → String
  | [] => ""
  | piece :: pieces => piece.written ++ written pieces

/-- What the prompt reads outside quotes and finds in the paths of a command. -/
def exposed (inside : Bool) : List Piece → List Char
  | [] => []
  | piece :: pieces =>
    piece.exposed inside ++ exposed (insideAfter inside piece.written.toList) pieces

lemma Piece.Proper.read {piece : Piece} (h : piece.Proper) :
    piece.exposed false = piece.bare ∧ insideAfter false piece.written.toList = false := by
  cases piece with
  | words text =>
      have htext : '"' ∉ text.toList := h
      exact ⟨rfl, insideAfter_of_not_mem htext⟩
  | path name =>
      obtain ⟨hne, hlegal⟩ : name ≠ "" ∧ Legal name := h
      have hquoted : (quote name).toList = quoteChars name.toList := String.toList_ofList
      rw [Piece.exposed, Piece.written, hquoted]
      exact read_quoted (by simpa using hne) hlegal

/-- **A command exposes its paths without spaces**, and nothing of the others. -/
lemma exposed_eq {pieces : List Piece} (h : ∀ piece ∈ pieces, piece.Proper) :
    exposed false pieces = pieces.flatMap Piece.bare := by
  induction pieces with
  | nil => rfl
  | cons piece pieces ih =>
      rw [List.forall_mem_cons] at h
      obtain ⟨hexposed, hinside⟩ := h.1.read
      rw [exposed, List.flatMap_cons, hexposed, hinside, ih h.2]

/-! ## The commands over a directory -/

/-- What the command prompt makes of a command whose pieces are known: the operators that stand
outside quotes and are a path's, and no space of a path among them. -/
structure Exposes (command : String) (pieces : List Piece) (operators : List Char) : Prop where
  written_eq : written pieces = command
  operators_eq : (exposed false pieces).filter isOperator = operators
  undivided : ' ' ∉ exposed false pieces

def makeDirPieces (dir : WorkDir) : List Piece :=
  [.words "if not exist ", .path dir.path, .words " mkdir ", .path dir.path]

def runBatchPieces (path : String) : List Piece :=
  [.words "cmd /c ", .path path]

def lookupPieces (path : String) : List Piece :=
  [.words "if exist ", .path path, .words " (exit 0) else (exit 1)"]

section Directory

variable {dir : WorkDir} {path name : String}

lemma legal_resolve {configured : String} (h : Legal configured) :
    Legal (WorkDir.resolve (some configured)).path := by
  have htrimmed : Legal (Text.trim configured) :=
    fun c hc => h c ((Text.trim_sublist configured).subset hc)
  rw [WorkDir.resolve_eq]
  split
  · decide
  · by_cases hends : WorkDir.EndsInSeparator ⟨Text.trim configured⟩
    · rwa [WorkDir.ensureTrailingSeparator_of_ends hends]
    · rw [WorkDir.ensureTrailingSeparator_of_not_ends hends]
      intro c hc
      rw [String.toList_append, List.mem_append] at hc
      rcases hc with hc | hc
      · exact htrimmed c hc
      · obtain rfl := List.mem_singleton.mp hc
        rfl

lemma space_not_mem_bareOf (cs : List Char) : ' ' ∉ bareOf cs := by
  unfold bareOf
  split
  · exact List.not_mem_nil
  · assumption

/-- A command whose pieces are proper exposes what its paths expose by themselves. -/
lemma exposes_of_proper {command : String} {pieces : List Piece}
    (hwritten : written pieces = command) (hproper : ∀ piece ∈ pieces, piece.Proper) :
    Exposes command pieces ((pieces.flatMap Piece.bare).filter isOperator) where
  written_eq := hwritten
  operators_eq := by rw [exposed_eq hproper]
  undivided := by
    rw [exposed_eq hproper, List.mem_flatMap]
    rintro ⟨_ | name, -, hspace⟩
    · cases hspace
    · exact space_not_mem_bareOf name.toList hspace

lemma filter_bareOf (cs : List Char) :
    (bareOf cs).filter isOperator = if ' ' ∈ cs then [] else cs.filter isOperator := by
  unfold bareOf
  split <;> rfl

@[simp] lemma proper_words_iff {text : String} :
    (Piece.words text).Proper ↔ '"' ∉ text.toList := Iff.rfl

lemma exposes_makeDir (h : (Piece.path dir.path).Proper) :
    Exposes (Attempt.makeDirCommand dir) (makeDirPieces dir)
      ((bareOf dir.path.toList).filter isOperator
        ++ (bareOf dir.path.toList).filter isOperator) := by
  have hwritten : written (makeDirPieces dir) = Attempt.makeDirCommand dir := by
    simp only [makeDirPieces, written, Piece.written, String.append_empty, ← String.append_assoc]
    rfl
  have hexposes := exposes_of_proper hwritten (by simp [makeDirPieces, h])
  simpa [makeDirPieces, Piece.bare] using hexposes

lemma exposes_runBatch (h : (Piece.path path).Proper) :
    Exposes (Attempt.runBatchCommand path) (runBatchPieces path)
      ((bareOf path.toList).filter isOperator) := by
  have hwritten : written (runBatchPieces path) = Attempt.runBatchCommand path := by
    simp only [runBatchPieces, written, Piece.written, String.append_empty]
    rfl
  have hexposes := exposes_of_proper hwritten (by simp [runBatchPieces, h])
  simpa [runBatchPieces, Piece.bare] using hexposes

lemma exposes_lookup (h : (Piece.path path).Proper) :
    Exposes (Ssh.Session.lookupCommand path) (lookupPieces path)
      ((bareOf path.toList).filter isOperator) := by
  have hwritten : written (lookupPieces path) = Ssh.Session.lookupCommand path := by
    simp only [lookupPieces, written, Piece.written, String.append_empty, ← String.append_assoc]
    rfl
  have hexposes := exposes_of_proper hwritten (by simp [lookupPieces, h])
  simpa [lookupPieces, Piece.bare] using hexposes

/-- A file with a harmless name exposes what its directory does. -/
lemma operators_join (hspace : ' ' ∉ name.toList)
    (hoperators : name.toList.filter isOperator = []) :
    (bareOf (dir.join name).toList).filter isOperator
      = (bareOf dir.path.toList).filter isOperator := by
  unfold bareOf
  rw [WorkDir.join, String.toList_append]
  by_cases hdir : ' ' ∈ dir.path.toList
  · rw [if_pos hdir, if_pos (List.mem_append_left _ hdir)]
  · rw [if_neg hdir, if_neg (by simp [hdir, hspace]), List.filter_append, hoperators,
      List.append_nil]

lemma proper_path (hdir : dir.EndsInSeparator) (hlegal : Legal dir.path) :
    (Piece.path dir.path).Proper :=
  ⟨hdir.path_ne, hlegal⟩

lemma proper_join (name : String) (hdir : dir.EndsInSeparator) (hlegal : Legal dir.path)
    (hname : Legal name) :
    (Piece.path (dir.join name)).Proper := by
  obtain ⟨hne, -⟩ := proper_path hdir hlegal
  refine ⟨fun hempty => hne ?_, fun c hc => ?_⟩
  · rw [WorkDir.join, String.append_eq_empty_iff] at hempty
    exact hempty.1
  · rw [WorkDir.join, String.toList_append, List.mem_append] at hc
    exact hc.elim (hlegal c) (hname c)

end Directory

/-- **What the commands over a legal directory expose.**  No space of it stands outside quotes.  An
operator of it does, wherever the directory is named, unless there is a space in its path; so the
prompt takes the directory as one argument exactly if it has a space or no operator. -/
theorem commands_expose {configured : String} (hlegal : Legal configured) :
    let dir := WorkDir.resolve (some configured)
    let operators :=
      if ' ' ∈ dir.path.toList then [] else dir.path.toList.filter isOperator
    Exposes (Attempt.makeDirCommand dir) (makeDirPieces dir) (operators ++ operators)
      ∧ Exposes (Attempt.runBatchCommand (dir.join WorkDir.initScriptFile))
        (runBatchPieces (dir.join WorkDir.initScriptFile)) operators
      ∧ Exposes (Ssh.Session.lookupCommand (dir.join WorkDir.initMarkerFile))
        (lookupPieces (dir.join WorkDir.initMarkerFile)) operators := by
  intro dir operators
  have hends := WorkDir.resolve_endsInSeparator (some configured)
  have hdir := legal_resolve hlegal
  have hscript := proper_join WorkDir.initScriptFile hends hdir (by decide)
  have hmarker := proper_join WorkDir.initMarkerFile hends hdir (by decide)
  have hbare : (bareOf dir.path.toList).filter isOperator = operators := filter_bareOf _
  refine ⟨?_, ?_, ?_⟩
  · have hexposes := exposes_makeDir (proper_path hends hdir)
    rwa [hbare] at hexposes
  · have hexposes := exposes_runBatch hscript
    rwa [operators_join (by decide) (by decide), hbare] at hexposes
  · have hexposes := exposes_lookup hmarker
    rwa [operators_join (by decide) (by decide), hbare] at hexposes

/-- A directory with operators and a space is one argument. -/
theorem commands_expose_space :
    Legal "C:\\build agents (x86)"
      ∧ Exposes (Attempt.makeDirCommand ⟨"C:\\build agents (x86)\\"⟩)
        (makeDirPieces ⟨"C:\\build agents (x86)\\"⟩) [] := by
  have hlegal : Legal "C:\\build agents (x86)" := by decide
  exact ⟨hlegal, (commands_expose hlegal).1⟩

/-- A directory with an operator and no space is not: the prompt reads the operator twice in the
command that makes the directory, and once in each of the other two. -/
theorem ampersand_exposed :
    let dir : WorkDir := ⟨"C:\\R&D\\"⟩
    Legal "C:\\R&D" ∧ WorkDir.resolve (some "C:\\R&D") = dir
      ∧ Exposes (Attempt.makeDirCommand dir) (makeDirPieces dir) ['&', '&']
      ∧ Exposes (Attempt.runBatchCommand (dir.join WorkDir.initScriptFile))
        (runBatchPieces (dir.join WorkDir.initScriptFile)) ['&']
      ∧ Exposes (Ssh.Session.lookupCommand (dir.join WorkDir.initMarkerFile))
        (lookupPieces (dir.join WorkDir.initMarkerFile)) ['&'] := by
  refine ⟨by decide, by decide, ?_, ?_, ?_⟩
  all_goals exact ⟨by decide, by decide, by decide⟩

end AgentLaunch.Windows
