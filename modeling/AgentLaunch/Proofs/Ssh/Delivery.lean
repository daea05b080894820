import AgentLaunch.Proofs.Ssh.Commands
import AgentLaunch.Proofs.Ssh.Streams
import AgentLaunch.Proofs.Ssh.Upload

/-!
# Files arrive as they are

An upload and the script that it starts on the remote host are two halves of one copy.  This module
puts together what the lines hold, when an upload counts as done, and what the streams of its
command carry.

Between the two halves are streams, and they may cut the lines anywhere, end early or fail.  Nobody
at the remote end can tell a whole file from the front of one as long as the input is open.  What
can be said then is that the channel has a front of what was written (`carried_prefix`), and once
the end of the input has been sent, that it has all of it (`read_carried`).

* **`putFile_delivers`** — the remote file has the contents that were sent.

Success is the third part, and comes from the operation: an upload succeeds if all of its lines
could be written, the input could be ended, and the command has exited with zero (`succeeds_iff`).
An empty file is a case of its own, as it has no line at all and is still created.  `greetingEvents`
are the streams of a short upload, whose one line comes in two pieces.
-/

namespace AgentLaunch.Ssh

open Dialogue (Transcript)

/-- What has been written into the inputs of commands. -/
def written (es : List Event) : Bytes :=
  es.flatMap fun
    | ⟨.writeInput _ bytes, .ok ()⟩ => bytes
    | _ => []

lemma written_append (es es' : List Event) : written (es ++ es') = written es ++ written es' :=
  List.flatMap_append

lemma written_of_prepares {es : List Event} (h : ∀ x ∈ es, x.request.prepares = true) :
    written es = [] := by
  refine List.flatMap_eq_nil_iff.mpr fun x hx => ?_
  have hprepares := h x hx
  obtain ⟨request, reply⟩ := x
  cases request with
  | writeInput channel bytes => simp [Call.prepares] at hprepares
  | _ => rfl

lemma written_map_writeInput (channel : ChannelId) (lines : List Bytes) :
    written (lines.map fun line => asked (.writeInput channel line) (.ok ())) = lines.flatten := by
  rw [written, List.flatMap_map]
  exact List.flatMap_id

/-- **A file is delivered**, whatever it holds. -/
structure Delivers (path : String) (contents : Bytes) : Prop where
  /-- The script that reads the lines to their end writes the file. -/
  read_lines : Upload.readFile? (Upload.lines contents).flatten = some contents
  /-- There are as few lines as chunks of 48 KiB, and the script reads one by one. -/
  length_lines :
    (Upload.lines contents).length = (contents.length + 49151) / 49152
      ∧ (Upload.readLines (Upload.lines contents).flatten).length
        = (contents.length + 49151) / 49152
  line_bounds : ∀ line ∈ Upload.readLines (Upload.lines contents).flatten,
    line ≠ [] ∧ line.length ≤ 65536
  /-- For an empty file nothing is sent, and the script makes it. -/
  read_nothing : contents = [] →
    (Upload.lines contents).flatten = [] ∧ Upload.readFile? [] = some []
  /-- The upload succeeds if all lines are written, the input is ended and the script ends with the
  exit code 0, and in no other way. -/
  succeeds_iff : ∀ s es s', Transcript (Session.putFile path contents s) es (some (.ok (), s'))
    ↔ ∃ front connection channel, Takes Session.liveConnection s front (.ok connection) s'
      ∧ es = (front ++ Session.successfulUpload path contents connection channel).map patiently
  /-- What a successful upload has written makes the file. -/
  read_written : ∀ s es s', Transcript (Session.putFile path contents s) es (some (.ok (), s')) →
    Upload.readFile? (written (heard es)) = some contents
  /-- However the streams of the command are moved, what the script has been given is a front of
  the lines. -/
  carried_prefix : ∀ events, Streams.ReadsFrom (Upload.lines contents).flatten events →
    (Streams.State.run {} events).carried <+: (Upload.lines contents).flatten
  /-- A script that is told the end of its input has been given all of them. -/
  read_carried : ∀ events, Streams.ReadsFrom (Upload.lines contents).flatten events →
    .endOfInput ∈ (Streams.State.run {} events).sent →
    Upload.readFile? (Streams.State.run {} events).carried = some contents

section Written

variable (path : String) (contents : Bytes)

/-- A successful upload writes its lines and nothing else. -/
lemma written_successfulUpload (connection : ConnectionId) (channel : ChannelId) :
    written (Session.successfulUpload path contents connection channel)
      = (Upload.lines contents).flatten := by
  rw [Session.successfulUpload, written_append, written_append, written_map_writeInput]
  simp [written]

lemma putFile_ok_iff (s : Session) (es : List TimedEvent) (s' : Session) :
    Transcript (Session.putFile path contents s) es (some (.ok (), s'))
      ↔ ∃ front connection channel, Takes Session.liveConnection s front (.ok connection) s'
        ∧ es = (front ++ Session.successfulUpload path contents connection channel).map
          patiently := by
  refine takes_patiently_iff.trans ?_
  constructor
  · rintro ⟨plain, hplain, rfl⟩
    obtain ⟨front, connection, channel, hfront, rfl⟩ := Session.takes_upload_ok_iff.mp hplain
    exact ⟨front, connection, channel, hfront, rfl⟩
  · rintro ⟨front, connection, channel, hfront, rfl⟩
    exact ⟨_, Session.takes_upload_ok_iff.mpr ⟨front, connection, channel, hfront, rfl⟩, rfl⟩

lemma written_of_putFile_ok {s : Session} {es : List TimedEvent} {s' : Session}
    (h : Transcript (Session.putFile path contents s) es (some (.ok (), s'))) :
    written (heard es) = (Upload.lines contents).flatten := by
  obtain ⟨front, connection, channel, hfront, rfl⟩ := (putFile_ok_iff path contents s es s').mp h
  have hnone := written_of_prepares (Session.liveConnection_prepares _ _ _ _ hfront)
  rw [heard_map_patiently, written_append, hnone, written_successfulUpload, List.nil_append]

end Written

/-- **An upload delivers its file.** -/
theorem putFile_delivers (path : String) (contents : Bytes) : Delivers path contents where
  read_lines := Upload.readFile?_lines contents
  length_lines := by
    have hlength : (Upload.lines contents).length = (contents.length + 49151) / 49152 := by
      rw [Upload.length_lines, Upload.chunkLength]
      omega
    have hread : (Upload.readLines (Upload.lines contents).flatten).length
        = (Upload.lines contents).length := by
      rw [Upload.readLines_lines, Upload.lines, List.length_map, List.length_map]
    exact ⟨hlength, hread.trans hlength⟩
  line_bounds := fun line hline => Upload.mem_readLines contents hline
  read_nothing := by
    rintro rfl
    have hnothing : (Upload.lines []).flatten = [] := by
      rw [Upload.lines, Upload.chunks, if_pos (.inl rfl)]
      rfl
    exact ⟨hnothing, by simpa [hnothing] using Upload.readFile?_lines []⟩
  succeeds_iff := putFile_ok_iff path contents
  read_written := by
    intro s es s' h
    rw [written_of_putFile_ok path contents h]
    exact Upload.readFile?_lines contents
  carried_prefix := fun _ hreads => Streams.carried_prefix hreads
  read_carried := by
    intro events hreads hend
    rw [Streams.carried_of_endOfInput hreads hend]
    exact Upload.readFile?_lines contents

/-- A short file. -/
def greeting : Bytes := Utf8.encode "hello"

/-- The streams of its upload.  The one line comes in two pieces, with a diagnostic message between
them. -/
def greetingEvents : List Streams.Event :=
  [.input (Utf8.encode "aGV") true, .diagnostics (Utf8.encode "#"),
    .input (Utf8.encode "sbG8=\x0d\n") true, .inputEnd true, .exitStatus 0, .channelClosed]

theorem putFile_delivers_greeting :
    Streams.ReadsFrom (Upload.lines greeting).flatten greetingEvents
      ∧ .endOfInput ∈ (Streams.State.run {} greetingEvents).sent
      ∧ Upload.readFile? (Streams.State.run {} greetingEvents).carried = some greeting := by
  have hlines : (Upload.lines greeting).flatten = Utf8.encode "aGVsbG8=\x0d\n" := by
    rw [Upload.lines_of_short (by decide) (by decide)]
    decide
  have hreads : Streams.ReadsFrom (Upload.lines greeting).flatten greetingEvents := by
    rw [hlines]
    refine ⟨by decide, fun front sent rest hevents => ?_⟩
    obtain ⟨rfl, -, -⟩ : front = greetingEvents.take 3 ∧ sent = true
        ∧ rest = greetingEvents.drop 4 := by
      simpa [greetingEvents, List.cons_eq_append_iff] using hevents
    decide
  have hend : .endOfInput ∈ (Streams.State.run {} greetingEvents).sent := by decide
  exact ⟨hreads, hend, (putFile_delivers "hello.txt" greeting).read_carried _ hreads hend⟩

end AgentLaunch.Ssh
