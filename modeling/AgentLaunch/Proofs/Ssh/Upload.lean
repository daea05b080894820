import AgentLaunch.Proofs.Text.Base64
import AgentLaunch.Ssh.Upload
import Mathlib.Data.List.Basic

/-!
# The two ends of an upload

The script on the remote host reads lines until its input ends, decodes each of them and appends
what it gets to a new file.  `readFile?` is what it does; this module shows that it undoes what the
sender does to a file's contents.

* `readLines`, `readFile?` — the script.
* `flatten_chunks`, `length_chunks` — cutting contents into chunks loses nothing and makes as few
  of them as possible.
* **`readFile?_lines`** — the remote file has the contents that were sent.

The code of a chunk has no line end in it, because Base64 has no such character; so a reader that
knows nothing of chunks finds each of them on a line of its own.  Reading lines is an induction on
the list of chunks, in which one line is split off at a time.  Cutting is followed by the recursion
of `chunks`, which takes a full chunk as long as there is one.

How many lines there are and how long they can be is part of it: as many as there are chunks, none
of them empty, and none longer than the code of a full chunk.  Contents that are empty have no
chunks, and then the remote end reads an input without any line.
-/

namespace AgentLaunch.Ssh.Upload

/-! ## The remote end -/

/-- The lines in an input: a carriage return with a line feed ends a line, and so does the end of
the input. -/
def readLines : Bytes → List Bytes
  | [] => []
  | 0x0D :: 0x0A :: rest => [] :: readLines rest
  | b :: rest =>
    match readLines rest with
    | [] => [[b]]
    | line :: more => (b :: line) :: more

/-- The bytes that a line of Base64 text stands for. -/
def decodeLine? (line : Bytes) : Option Bytes :=
  Base64.decode? (line.map fun b => Char.ofNat b.toNat)

/-- The file after a line. -/
def appendLine? (file line : Bytes) : Option Bytes :=
  (decodeLine? line).map (file ++ ·)

/-- What the script has written when its input has ended; nothing if a line is no Base64 text. -/
def readFile? (input : Bytes) : Option Bytes :=
  (readLines input).foldlM appendLine? []

/-- A line that is not empty goes on with its next byte. -/
lemma readLines_cons {b : UInt8} (hb : b ≠ 0x0D) (rest : Bytes) :
    readLines (b :: rest)
      = match readLines rest with
        | [] => [[b]]
        | line :: more => (b :: line) :: more := by
  rw [readLines]
  rintro _ rfl
  exact absurd rfl hb

/-- The first line of an input. -/
lemma readLines_append {line : Bytes} (hline : ∀ b ∈ line, b ≠ 0x0D) (rest : Bytes) :
    readLines (line ++ 0x0D :: 0x0A :: rest) = line :: readLines rest := by
  induction line with
  | nil => rfl
  | cons b line ih =>
      rw [List.forall_mem_cons] at hline
      rw [List.cons_append, readLines_cons hline.1, ih hline.2]

/-! ## Chunks -/

section Chunks

variable {n : Nat} (hn : 0 < n) (bs : Bytes)

include hn

/-- Nothing is lost between the chunks. -/
lemma flatten_chunks : (chunks n bs).flatten = bs := by
  fun_induction chunks n bs with
  | case1 bs h =>
      have hnil : bs = [] := h.resolve_right (Nat.pos_iff_ne_zero.mp hn)
      rw [hnil]
      rfl
  | case2 bs h ih => rw [List.flatten_cons, ih, List.take_append_drop]

/-- There are as few chunks as possible. -/
lemma length_chunks : (chunks n bs).length = (bs.length + n - 1) / n := by
  fun_induction chunks n bs with
  | case1 bs h =>
      have hnil : bs = [] := h.resolve_right (Nat.pos_iff_ne_zero.mp hn)
      rw [hnil]
      exact (Nat.div_eq_of_lt (by simpa using Nat.sub_lt hn Nat.one_pos)).symm
  | case2 bs h ih =>
      have hpos : 0 < bs.length := List.length_pos_iff.mpr (not_or.mp h).1
      rw [List.length_cons, ih, List.length_drop]
      by_cases hlast : bs.length ≤ n
      · have hnone : bs.length - n + n - 1 < n := by omega
        have hone : bs.length + n - 1 = (bs.length - 1) + n := by omega
        rw [Nat.div_eq_of_lt hnone, hone, Nat.add_div_right _ hn,
          Nat.div_eq_of_lt (by omega : bs.length - 1 < n)]
      · have hmore : bs.length + n - 1 = (bs.length - n + n - 1) + n := by omega
        rw [hmore, Nat.add_div_right _ hn]

end Chunks

/-- No chunk is empty, and none is too long. -/
lemma mem_chunks {n : Nat} {bs chunk : Bytes} (h : chunk ∈ chunks n bs) :
    chunk ≠ [] ∧ chunk.length ≤ n := by
  fun_induction chunks n bs with
  | case1 bs hend => simp at h
  | case2 bs hend ih =>
      rw [List.mem_cons] at h
      rcases h with rfl | h
      · rw [not_or] at hend
        refine ⟨fun hnil => ?_, List.length_take_le _ _⟩
        rcases List.take_eq_nil_iff.mp hnil with hzero | hempty
        · exact hend.2 hzero
        · exact hend.1 hempty
      · exact ih h

/-! ## Lines -/

/-- A chunk as the bytes of its line, without the line end. -/
def code (chunk : Bytes) : Bytes :=
  (Base64.encode chunk).map fun c => c.val.toUInt8

section Codes

variable {c : Char}

lemma utf8EncodeChar_of_isCode (hc : Base64.IsCode c) :
    String.utf8EncodeChar c = [c.val.toUInt8] :=
  Base64.IsCode.all (P := fun c => String.utf8EncodeChar c = [c.val.toUInt8]) (by decide)
    (by decide) hc

lemma toUInt8_ne_of_isCode (hc : Base64.IsCode c) : c.val.toUInt8 ≠ 0x0D :=
  Base64.IsCode.all (P := fun c => c.val.toUInt8 ≠ 0x0D) (by decide) (by decide) hc

lemma ofNat_toUInt8_of_isCode (hc : Base64.IsCode c) : Char.ofNat c.val.toUInt8.toNat = c :=
  Base64.IsCode.all (P := fun c => Char.ofNat c.val.toUInt8.toNat = c) (by decide) (by decide) hc

end Codes

/-- A line is sent as the code of its chunk and the line end. -/
lemma line_eq (chunk : Bytes) : line chunk = code chunk ++ [0x0D, 0x0A] := by
  have hcode : (Base64.encode chunk).flatMap String.utf8EncodeChar = code chunk := by
    rw [code, List.map_eq_flatMap]
    refine List.flatMap_congr fun c hc => ?_
    exact utf8EncodeChar_of_isCode (Base64.isCode_of_mem_encode hc)
  rw [line, Utf8.encode, String.toList_ofList, List.flatMap_append, hcode]
  rfl

/-- The code of a chunk is one line. -/
lemma ne_of_mem_code {chunk : Bytes} {b : UInt8} (hb : b ∈ code chunk) : b ≠ 0x0D := by
  obtain ⟨c, hc, rfl⟩ := List.mem_map.mp hb
  exact toUInt8_ne_of_isCode (Base64.isCode_of_mem_encode hc)

lemma decodeLine?_code (chunk : Bytes) : decodeLine? (code chunk) = some chunk := by
  have hchars : (code chunk).map (fun b => Char.ofNat b.toNat) = Base64.encode chunk := by
    rw [code, List.map_map]
    conv_rhs => rw [← List.map_id (Base64.encode chunk)]
    refine List.map_congr_left fun c hc => ?_
    exact ofNat_toUInt8_of_isCode (Base64.isCode_of_mem_encode hc)
  rw [decodeLine?, hchars, Base64.decode?_encode]

/-- The lines of the chunks, as the remote end reads them. -/
lemma readLines_flatten_map_line (cs : List Bytes) :
    readLines (cs.map line).flatten = cs.map code := by
  induction cs with
  | nil => rfl
  | cons chunk cs ih =>
      have hsent : ((chunk :: cs).map line).flatten
          = code chunk ++ 0x0D :: 0x0A :: (cs.map line).flatten := by
        rw [List.map_cons, List.flatten_cons, line_eq, List.append_assoc]
        rfl
      rw [hsent, readLines_append fun b hb => ne_of_mem_code hb, ih, List.map_cons]

/-- The remote end appends the chunks to its file. -/
lemma foldlM_appendLine? (file : Bytes) (cs : List Bytes) :
    (cs.map code).foldlM appendLine? file = some (file ++ cs.flatten) := by
  induction cs generalizing file with
  | nil => simp
  | cons chunk cs ih =>
      rw [List.map_cons, List.foldlM_cons, appendLine?, decodeLine?_code]
      show (cs.map code).foldlM appendLine? (file ++ chunk) = _
      rw [ih, List.flatten_cons, List.append_assoc]

/-! ## Both ends -/

variable (contents : Bytes)

lemma chunkLength_pos : 0 < chunkLength := by decide

/-- What the remote end reads. -/
lemma readLines_lines :
    readLines (lines contents).flatten = (chunks chunkLength contents).map code :=
  readLines_flatten_map_line _

/-- **The remote file has the contents that were sent.** -/
theorem readFile?_lines : readFile? (lines contents).flatten = some contents := by
  rw [readFile?, readLines_lines, foldlM_appendLine?, flatten_chunks chunkLength_pos]
  rfl

lemma length_lines :
    (lines contents).length = (contents.length + chunkLength - 1) / chunkLength := by
  rw [lines, List.length_map, length_chunks chunkLength_pos]

/-- A file that is no longer than a chunk is one line. -/
lemma lines_of_short {contents : Bytes} (hne : contents ≠ [])
    (hshort : contents.length ≤ chunkLength) : lines contents = [line contents] := by
  have hrest : chunks chunkLength [] = [] := by rw [chunks, if_pos (.inl rfl)]
  rw [lines, chunks, if_neg (by simp [hne, chunkLength]), List.take_of_length_le hshort,
    List.drop_of_length_le hshort, hrest, List.map_singleton]

/-- No line that the remote end reads is empty, and none is longer than the code of a full
chunk. -/
lemma mem_readLines {line : Bytes} (h : line ∈ readLines (lines contents).flatten) :
    line ≠ [] ∧ line.length ≤ 65536 := by
  rw [readLines_lines] at h
  obtain ⟨chunk, hchunk, rfl⟩ := List.mem_map.mp h
  obtain ⟨hne, hlength⟩ := mem_chunks hchunk
  constructor
  · intro hnil
    rw [code, List.map_eq_nil_iff, Base64.encode_eq_nil_iff] at hnil
    exact hne hnil
  · rw [code, List.length_map, Base64.length_encode]
    unfold chunkLength at hlength
    omega

end AgentLaunch.Ssh.Upload
