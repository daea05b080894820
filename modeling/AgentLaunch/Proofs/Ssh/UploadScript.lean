import AgentLaunch.Proofs.Ssh.Connection
import AgentLaunch.Proofs.Windows.EncodedCommand
import AgentLaunch.Proofs.Windows.Literal

/-!
# The file that an upload creates

The script of an upload is fixed but for the path of the file, which stands in it as a literal.  So
it creates the file that is meant, and does with it what is meant, as long as the literal is read
back.

* `upload_starts` — an upload starts no command but its own.
* `Creates` — what file a script creates, and with what it goes on.
* **`putFile_creates`** — the paths for which an upload creates the file that is meant, and what
  becomes of another one.

What the script creates is told by a reader of literals, and not by what the writer had in mind.
`Creates` says that the text behind the opening is a literal, which name it stands for and what is
left when it has been read.  What is left is a program, and it should be the loop that reads lines;
for a path with a lone typographic quote the rest of the path comes first.

The equivalence is the one of `Windows.Literal`, with one fact about the fixed part: it does not
begin with a quote, so that it cannot be taken for a part of the literal.
-/

namespace AgentLaunch.Ssh

open Dialogue (Transcript)
open PowerShell (literal readLiteral? doubleApostrophes Straight StartsPlain isTypographic)

/-! ## The command of an upload -/

/-- A request that starts a certain command, or none. -/
def Call.startsOnly (command : String) : Call → Bool
  | start _ started _ => started == command
  | _ => true

namespace Session

variable (command : String)

lemma liveConnection_starts : Asks (Call.startsOnly command) liveConnection := by
  intro s es r s' h
  cases takes_liveConnection h with
  | closed => simp
  | held => simp [Call.startsOnly]
  | lost hopen hheld hlogin => cases hlogin <;> simp [Call.startsOnly]
  | absent hopen hnone hlogin => cases hlogin <;> simp [Call.startsOnly]

lemma startCommand_starts (limit : Option Nat) :
    Asks (Call.startsOnly command) (startCommand command limit) :=
  startCommand_asks (liveConnection_starts command) (fun _ => rfl) fun _ => beq_self_eq_true command

/-- **An upload starts no command but its own.** -/
lemma upload_starts (path : String) (contents : Bytes) :
    Asks (Call.startsOnly (Upload.command path)) (upload path contents) := by
  intro s es r s' h
  rcases takes_upload_cases h with
    ⟨e, hstart, -⟩ | ⟨channel, _, _, _, _, _, hstart, hlines, rfl, hlast⟩
  · exact startCommand_starts _ none _ _ _ _ hstart
  · have hsend : Asks (Call.startsOnly (Upload.command path))
        (sendLines channel (Upload.lines contents)) := sendLines_asks rfl (fun _ => rfl) _
    rw [List.forall_mem_append, List.forall_mem_append]
    refine ⟨startCommand_starts _ none _ _ _ _ hstart, hsend _ _ _ _ hlines, ?_⟩
    rcases hlast with ⟨_, -, rfl, -⟩ | ⟨-, _, rfl, -⟩
    · simp [Call.startsOnly]
    · simp [Call.startsOnly]

end Session

namespace Upload

/-! ## What the script does -/

/-- The part of the script before the path, which creates a file. -/
def opening : String := "$o=[IO.File]::Create("

/-- The part of the script after the path, which writes what it reads into the file. -/
def readerLoop : String :=
  ");while(($l=[Console]::In.ReadLine()) -ne $null)\x7b"
    ++ "$b=[Convert]::FromBase64String($l);$o.Write($b,0,$b.Length)\x7d;$o.Close()"

lemma script_eq (path : String) : script path = opening ++ (literal path ++ readerLoop) :=
  calc script path
      = opening ++ literal path ++ readerLoop := String.append_assoc
    _ = opening ++ (literal path ++ readerLoop) := String.append_assoc

/-- **What a script creates**: the file whose name it gives as a literal.  What stands behind the
literal is what the script goes on with. -/
def Creates (script name remaining : String) : Prop :=
  ∃ text, script = opening ++ text
    ∧ readLiteral? text.toList = some (name.toList, remaining.toList)

lemma creates_script_iff {path name remaining : String} : Creates (script path) name remaining
    ↔ readLiteral? ((literal path).toList ++ readerLoop.toList)
      = some (name.toList, remaining.toList) := by
  rw [← String.toList_append]
  constructor
  · rintro ⟨text, hscript, hread⟩
    rw [script_eq, String.append_right_inj] at hscript
    rwa [hscript]
  · intro h
    exact ⟨literal path ++ readerLoop, script_eq path, h⟩

/-- The command with which the remote host runs a script. -/
def Runs (command script : String) : Prop :=
  ∃ encoded, command = "powershell -NoProfile -NonInteractive -EncodedCommand " ++ encoded
    ∧ PowerShell.decodeCommand? encoded = some script

lemma startsPlain_readerLoop : StartsPlain readerLoop.toList := by
  have hhead : readerLoop.toList.head? = some ')' := by
    unfold readerLoop
    rw [String.toList_append, List.head?_append]
    simp
  exact PowerShell.startsPlain_of_head? hhead rfl

/-- **How a path is named in the script of its upload.** -/
structure Names (path : String) : Prop where
  /-- The literal is read back if the path has no typographic quote, and then only. -/
  read_iff : ∀ following, StartsPlain following →
    (readLiteral? ((literal path).toList ++ following) = some (path.toList, following)
      ↔ Straight path.toList)
  /-- Whatever an upload starts runs its script. -/
  runs : ∀ contents s es o, Transcript (Session.putFile path contents s) es o →
    ∀ x ∈ es, ∀ channel command limit, callOf x = .start channel command limit →
      Runs command (script path)
  creates_iff : Creates (script path) path readerLoop ↔ Straight path.toList
  /-- From a lone typographic quote on, the path is run as a part of the script. -/
  exposes : ∀ front quote code, path.toList = front ++ quote :: code → Straight front →
    isTypographic quote = true → code ≠ [] → StartsPlain code →
    Creates (script path) (String.ofList front)
      (String.ofList (doubleApostrophes code) ++ "'" ++ readerLoop)

lemma runs_command (path : String) : Runs (command path) (script path) :=
  ⟨_, rfl, PowerShell.decodeCommand?_encodeCommand (script path)⟩

lemma runs_of_putFile {path : String} {contents : Bytes} {s : Session} {es : List TimedEvent}
    {o : Option (Except TransportError Unit × Session)}
    (h : Transcript (Session.putFile path contents s) es o) {x : TimedEvent} (hx : x ∈ es)
    {channel : ChannelId} {started : String} {limit : Option Nat}
    (hstart : callOf x = .start channel started limit) : Runs started (script path) := by
  obtain ⟨plain, hplain, rfl⟩ := transcript_patient_iff.mp h
  obtain ⟨r, s', rfl⟩ := finishes_upload path contents s plain o hplain
  obtain ⟨y, hy, rfl⟩ := List.mem_map.mp hx
  have hown := Session.upload_starts path contents s plain r s' hplain y hy
  have hrequest : y.request = .start channel started limit := hstart
  rw [hrequest] at hown
  obtain rfl : started = command path := beq_iff_eq.mp hown
  exact runs_command path

end Upload

/-- **The file that an upload creates.**  It is the one that is meant, and the script goes on as it
should, exactly if the path has no typographic quote. -/
theorem putFile_creates (path : String) : Upload.Names path where
  read_iff := fun _ hfollowing => PowerShell.readLiteral?_literal_iff path hfollowing
  runs := fun _ _ _ _ ht _ hx _ _ _ hstart => Upload.runs_of_putFile ht hx hstart
  creates_iff := Upload.creates_script_iff.trans
    (PowerShell.readLiteral?_literal_iff path Upload.startsPlain_readerLoop)
  exposes := by
    intro front quote code hpath hfront hquote hne hcode
    obtain rfl : path = String.ofList (front ++ quote :: code) := by
      rw [← hpath, String.ofList_toList]
    rw [Upload.creates_script_iff,
      PowerShell.readLiteral?_literal_of_lone hfront hquote hne hcode]
    simp

/-- In a directory with a typographic apostrophe in its name, the rest of the path is run. -/
theorem apostrophe_exposed :
    let path := "C:\\Bob’s\\init.bat"
    readLiteral? ((literal path).toList ++ [')']) = some ("C:\\Bob".toList, "s\\init.bat')".toList)
      ∧ Upload.Creates (Upload.script path) "C:\\Bob" ("s\\init.bat'" ++ Upload.readerLoop)
      ∧ ¬Upload.Creates (Upload.script path) path Upload.readerLoop := by
  refine ⟨by decide, ?_, ?_⟩
  · have hfront : Straight "C:\\Bob".toList := by decide
    have hquote : isTypographic '’' = true := by decide
    have hcode : StartsPlain "s\\init.bat".toList := PowerShell.startsPlain_of_head? rfl rfl
    have hread := PowerShell.readLiteral?_literal_of_lone hfront hquote (by decide) hcode
      Upload.readerLoop.toList
    rw [Upload.creates_script_iff, String.toList_append]
    exact hread
  · rw [Upload.creates_script_iff,
      PowerShell.readLiteral?_literal_iff _ Upload.startsPlain_readerLoop]
    decide

end AgentLaunch.Ssh
