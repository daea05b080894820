import AgentLaunch.Proofs.Ssh.Commands
import AgentLaunch.Proofs.Ssh.Streams

/-!
# Exit codes come from the server

Whoever waits for a command hears its end from the machine that moves its streams, and that knows
an exit status only if the server has sent one.  This module follows the status from there through
processes and through the operations of a session.

* `Becomes` — what can be done with a process before and after it is waited for.
* `Becomes.honest`, `Becomes.exitCode_eq` — an exit code is what the server has sent, and is kept.
* `Reports` — operations that succeed with such a code only.
* **`exitCodes_reported`** — the streams of every command are intact, and nothing but an exit status
  that the server has sent makes an operation succeed.

A *history* assigns to every channel the events of its streams.  The operations know nothing of
these: they ask for the end of a command and are given a status or none.  `Faithful` is the link,
and says that whatever they are given is what the streams of that channel have come to.

A process may be asked for its exit code any number of times, before and after it was killed and
with its streams claimed or not.  `Becomes` is the closure of these steps, and by induction on it a
code that is known never changes and is always one that was sent.  Neither a channel that closes
without a status nor a kill leads to a code, so the operations fail there.  `twoEnds` has one
channel with a status and one without.
-/

namespace AgentLaunch.Ssh

open Dialogue (Transcript)

variable {history : ChannelId → List Streams.Event}

/-- Every end that has been heard is the one that the streams of its command have come to. -/
def Faithful (history : ChannelId → List Streams.Event) (es : List Event) : Prop :=
  ∀ x ∈ ends es, x.2 = (Streams.State.run {} (history x.1)).status

lemma Faithful.append_iff {es es' : List Event} :
    Faithful history (es ++ es') ↔ Faithful history es ∧ Faithful history es' := by
  simp [Faithful, ends_append, or_imp, forall_and]

/-! ## Processes -/

/-- What can become of a process, and what is heard meanwhile: its streams are claimed, it is waited
for, and it is killed, in any order and any number of times. -/
inductive Becomes (p : Process) : List Event → Process → Prop where
  | start : Becomes p [] p
  | takeOutput {es : List Event} {q : Process} (h : Becomes p es q) : Becomes p es q.takeOutput.2
  | takeInput {es : List Event} {q : Process} (h : Becomes p es q) : Becomes p es q.takeInput.2
  | wait {es more : List Event} {q q' : Process} {r : Except TransportError Nat}
      (h : Becomes p es q) (hwait : Transcript q.wait more (some (r, q'))) :
      Becomes p (es ++ more) q'
  | destroy {es more : List Event} {q : Process} (h : Becomes p es q)
      (hkill : Transcript q.destroy more (some ())) : Becomes p (es ++ more) q

/-- The exit code of a process is the last one that the server has sent on its channel. -/
def Process.Honest (history : ChannelId → List Streams.Event) (p : Process) : Prop :=
  ∀ code, p.exitCode = some code → Streams.lastExitStatus (history p.channel) = some code

section Processes

variable {p q : Process} {es : List Event}

/-- Whoever has not heard an end knows no exit code, and whoever has knows what was sent. -/
lemma spent_honest {status : Option Nat} (h : status = Streams.lastExitStatus (history p.channel)) :
    (p.spent status).Honest history := by
  rintro code rfl
  exact h.symm

/-- Waiting gives the exit code that the server has sent, or fails. -/
lemma wait_honest {r : Except TransportError Nat} (hp : p.Honest history)
    (ht : Transcript p.wait es (some (r, q))) (hes : Faithful history es) :
    q.channel = p.channel ∧ q.Honest history ∧ ∀ code, r = .ok code → q.exitCode = some code := by
  cases hcode : p.exitCode with
  | some code =>
      rw [wait_of_known hcode] at ht
      obtain ⟨-, hq⟩ := Dialogue.transcript_done_iff.mp ht
      obtain ⟨rfl, rfl⟩ := Prod.mk.inj (Option.some.inj hq)
      refine ⟨rfl, hp, fun found hfound => ?_⟩
      rw [← Except.ok.inj hfound]
      exact hcode
  | none =>
      cases hawaitable : p.awaitable with
      | true =>
          obtain ⟨status, rfl, hq⟩ := (transcript_wait_iff hcode hawaitable).mp ht
          obtain ⟨rfl, rfl⟩ := Prod.mk.inj (Option.some.inj hq)
          have hsent : status = Streams.lastExitStatus (history p.channel) := by
            rw [← Streams.status_eq]
            exact hes (p.channel, status) (by simp [ends])
          refine ⟨rfl, spent_honest hsent, fun code hok => ?_⟩
          cases status with
          | none => cases hok
          | some found => rw [Except.ok.inj hok]; rfl
      | false =>
          obtain ⟨rfl, hq⟩ := transcript_wait_again hcode hawaitable ht
          obtain ⟨rfl, rfl⟩ := Prod.mk.inj (Option.some.inj hq)
          refine ⟨rfl, ?_, ?_⟩
          · rintro code ⟨⟩
          · rintro code ⟨⟩

/-- An exit code that is known stays so. -/
lemma Becomes.exitCode_eq {code : Nat} (h : Becomes p es q) (hcode : p.exitCode = some code) :
    q.exitCode = some code := by
  induction h with
  | start => exact hcode
  | takeOutput h ih => exact ih
  | takeInput h ih => exact ih
  | destroy h hkill ih => exact ih
  | wait h hwait ih =>
      rw [wait_of_known ih] at hwait
      obtain ⟨-, hq⟩ := Dialogue.transcript_done_iff.mp hwait
      obtain ⟨-, rfl⟩ := Prod.mk.inj (Option.some.inj hq)
      exact ih

/-- Whatever is done with a process, it stays honest. -/
lemma Becomes.honest (h : Becomes p es q) (hp : p.Honest history) (hes : Faithful history es) :
    q.channel = p.channel ∧ q.Honest history := by
  induction h with
  | start => exact ⟨rfl, hp⟩
  | takeOutput h ih => exact ih hes
  | takeInput h ih => exact ih hes
  | destroy h hkill ih => exact ih (Faithful.append_iff.mp hes).1
  | wait h hwait ih =>
      obtain ⟨hbefore, hnow⟩ := Faithful.append_iff.mp hes
      obtain ⟨hchannel, hhonest⟩ := ih hbefore
      obtain ⟨hsame, hhonest', -⟩ := wait_honest hhonest hwait hnow
      exact ⟨hsame.trans hchannel, hhonest'⟩

lemma fresh_honest (channel : ChannelId) : ({ channel } : Process).Honest history := by
  rintro code ⟨⟩

end Processes

/-! ## Operations -/

/-- An operation succeeds only with the exit code that the server has sent on a channel, and fails
if a channel has ended without one. -/
structure Reports {α : Type} (history : ChannelId → List Streams.Event) (es : List Event)
    (r : Except TransportError α) (make : Nat → Except TransportError α) : Prop where
  sent : ∀ a, r = .ok a → ∃ channel code, ends es = [(channel, some code)]
    ∧ Streams.lastExitStatus (history channel) = some code ∧ make code = .ok a
  silent : ∀ channel, (channel, none) ∈ ends es → ∃ e, r = .error e

section Operations

variable {α β : Type} {es : List Event} {r : Except TransportError α}
  {make : Nat → Except TransportError α}

lemma reports_error (e : TransportError) : Reports history es (.error e) make where
  sent := by rintro a ⟨⟩
  silent := fun _ _ => ⟨e, rfl⟩

lemma EndsWith.reports (h : EndsWith es r make) (hes : Faithful history es) :
    Reports history es r make := by
  rcases h with ⟨hnone, e, rfl⟩ | ⟨channel, status, hends, rfl⟩
  · exact reports_error e
  · have hstatus : status = Streams.lastExitStatus (history channel) := by
      rw [← Streams.status_eq]
      exact hes (channel, status) (by simp [hends])
    constructor
    · intro a ha
      cases status with
      | none => cases ha
      | some code => exact ⟨channel, code, hends, hstatus.symm, ha⟩
    · intro silent hmem
      rw [hends, List.mem_singleton] at hmem
      obtain ⟨-, rfl⟩ := Prod.mk.inj hmem
      exact ⟨_, rfl⟩

lemma Reports.map (h : Reports history es r make) (f : α → β) :
    Reports history es (r.map f) fun code => (make code).map f where
  sent := by
    intro b hb
    cases r with
    | error e => cases hb
    | ok a =>
        obtain ⟨channel, code, hends, hlast, hmake⟩ := h.sent a rfl
        refine ⟨channel, code, hends, hlast, ?_⟩
        rw [hmake]
        exact hb
  silent := by
    intro channel hmem
    obtain ⟨e, rfl⟩ := h.silent channel hmem
    exact ⟨e, rfl⟩

end Operations

section Sessions

variable {s s' : Session} {es : List TimedEvent}

lemma reports_ping {r : Except TransportError Bool}
    (ht : Transcript (Session.ping s) es (some (r, s'))) (hes : Faithful history (heard es)) :
    Reports history (heard es) r fun code => .ok (code == 0) := by
  unfold Session.ping at ht
  rcases Dialogue.transcript_bind_iff.mp ht with ⟨_, result, _, hrun, hend, rfl⟩ | ⟨-, hnone⟩
  · rcases result with _ | ⟨e | code, s₁⟩
    · obtain ⟨-, hr⟩ := Dialogue.transcript_done_iff.mp hend
      obtain ⟨rfl, -⟩ := Prod.mk.inj (Option.some.inj hr)
      exact reports_error _
    · obtain ⟨-, hr⟩ := Dialogue.transcript_done_iff.mp hend
      obtain ⟨rfl, -⟩ := Prod.mk.inj (Option.some.inj hr)
      exact reports_error e
    · obtain ⟨rfl, hr⟩ := Dialogue.transcript_done_iff.mp hend
      obtain ⟨rfl, -⟩ := Prod.mk.inj (Option.some.inj hr)
      rw [List.append_nil] at hes ⊢
      have hcode := Session.takes_runCommand (transcript_limited_some hrun)
      exact (hcode.reports hes).map (· == 0)
  · cases hnone

lemma reports_fileExists {path : String} {r : Except TransportError Bool}
    (ht : Transcript (Session.fileExists path s) es (some (r, s')))
    (hes : Faithful history (heard es)) :
    Reports history (heard es) r fun code => .ok (code == 0) := by
  obtain ⟨plain, hplain, rfl⟩ := takes_patiently_iff.mp ht
  obtain ⟨result, hrun, rfl⟩ := takes_map_iff.mp hplain
  rw [heard_map_patiently] at hes ⊢
  exact ((Session.takes_runCommand hrun).reports hes).map _

lemma reports_putFile {path : String} {contents : Bytes} {r : Except TransportError Unit}
    (ht : Transcript (Session.putFile path contents s) es (some (r, s')))
    (hes : Faithful history (heard es)) :
    Reports history (heard es) r (Session.uploadVerdict path)
      ∧ ∀ channel code, (channel, some code) ∈ ends (heard es) →
        r = Session.uploadVerdict path code := by
  obtain ⟨plain, hplain, rfl⟩ := takes_patiently_iff.mp ht
  rw [heard_map_patiently] at hes ⊢
  have hends := Session.takes_upload hplain
  refine ⟨hends.reports hes, fun channel code hmem => ?_⟩
  rcases hends with ⟨hnone, -⟩ | ⟨found, status, hone, rfl⟩
  · rw [hnone] at hmem
    cases hmem
  · rw [hone, List.mem_singleton] at hmem
    obtain ⟨-, rfl⟩ := Prod.mk.inj hmem
    rfl

end Sessions

/-! ## From the streams to the operations -/

/-- **Exit codes are reported as they were sent**, whatever has happened on the channels. -/
structure ReportsExitCodes (history : ChannelId → List Streams.Event) : Prop where
  /-- The streams of every command are intact. -/
  streams : ∀ channel, Streams.Intact (history channel) (Streams.State.run {} (history channel))
  /-- A command starts with a process that nobody has waited for. -/
  starts : ∀ command limit s es p s',
    Transcript (Session.execute command limit s) es (some (.ok p, s')) → ∃ channel, p = { channel }
  /-- However a process has been treated, waiting for it gives no code but the last one that the
  server has sent, and fails if there is none. -/
  waits : ∀ channel es p more r q, Becomes { channel } es p → Transcript p.wait more (some (r, q)) →
    Faithful history (es ++ more) →
    (∀ code, r = .ok code → Streams.lastExitStatus (history channel) = some code
      ∧ .exitStatus code ∈ history channel)
    ∧ (Streams.lastExitStatus (history channel) = none → ∃ e, r = .error e)
  /-- A code that has been given once is given ever after. -/
  waitsAgain : ∀ channel es p more code q, Becomes { channel } es p →
    Transcript p.wait more (some (.ok code, q)) → Faithful history (es ++ more) →
    ∀ later q', Becomes q later q' → q'.wait = pure (.ok code, q')
  pings : ∀ s es r s', Transcript (Session.ping s) es (some (r, s')) → Faithful history (heard es) →
    Reports history (heard es) r fun code => .ok (code == 0)
  lookups : ∀ path s es r s', Transcript (Session.fileExists path s) es (some (r, s')) →
    Faithful history (heard es) → Reports history (heard es) r fun code => .ok (code == 0)
  /-- An upload succeeds with the code 0 alone, and names any other code in its error. -/
  uploads : ∀ path contents s es r s',
    Transcript (Session.putFile path contents s) es (some (r, s')) → Faithful history (heard es) →
    Reports history (heard es) r (Session.uploadVerdict path)
      ∧ ∀ channel code, (channel, some code) ∈ ends (heard es) →
        r = Session.uploadVerdict path code

/-- **Nothing but an exit status that the server has sent is reported as an exit code.** -/
theorem exitCodes_reported (history : ChannelId → List Streams.Event) :
    ReportsExitCodes history where
  streams := fun channel => Streams.intact_run (history channel)
  starts := by
    intro command limit s es p s' ht
    obtain ⟨plain, hplain, -⟩ := takes_patiently_iff.mp ht
    exact (Session.takes_startCommand hplain).2 p rfl
  waits := by
    intro channel es p more r q hp ht hes
    obtain ⟨hbefore, hnow⟩ := Faithful.append_iff.mp hes
    obtain ⟨hchannel, hhonest⟩ := hp.honest (fresh_honest channel) hbefore
    obtain ⟨hsame, hhonest', hcode⟩ := wait_honest hhonest ht hnow
    have hsent : ∀ code, r = .ok code → Streams.lastExitStatus (history channel) = some code := by
      intro code hr
      have hlast := hhonest' code (hcode code hr)
      rwa [hsame, hchannel] at hlast
    constructor
    · intro code hr
      exact ⟨hsent code hr, Streams.mem_of_lastExitStatus (hsent code hr)⟩
    · intro hnone
      cases r with
      | error e => exact ⟨e, rfl⟩
      | ok code =>
          rw [hsent code rfl] at hnone
          cases hnone
  waitsAgain := by
    intro channel es p more code q hp ht hes later q' hlater
    obtain ⟨hbefore, hnow⟩ := Faithful.append_iff.mp hes
    obtain ⟨-, hhonest⟩ := hp.honest (fresh_honest channel) hbefore
    obtain ⟨-, -, hcode⟩ := wait_honest hhonest ht hnow
    exact wait_of_known (hlater.exitCode_eq (hcode code rfl))
  pings := fun _ _ _ _ ht hes => reports_ping ht hes
  lookups := fun _ _ _ _ _ ht hes => reports_fileExists ht hes
  uploads := fun _ _ _ _ _ _ ht hes => reports_putFile ht hes

/-- Two channels: the server sends an exit status on the first one, and closes the second one
without any. -/
def twoEnds : ChannelId → List Streams.Event
  | 0 => [.exitStatus 3, .endOfOutput, .channelClosed]
  | _ => [.endOfOutput, .channelClosed]

/-- Whoever waits for a command of either channel hears of the status that was sent, or fails. -/
theorem exitCodes_reported_twoEnds :
    let first : Process := { channel := 0 }
    let second : Process := { channel := 1 }
    let es := first.drops ++ [asked (.awaitEnd 0) (some 3)]
    let es' := second.drops ++ [asked (.awaitEnd 1) none]
    Faithful twoEnds (es ++ es')
      ∧ Transcript first.wait es (some (.ok 3, first.spent (some 3)))
      ∧ .exitStatus 3 ∈ twoEnds 0
      ∧ ∃ e, Transcript second.wait es' (some (.error e, second.spent none)) := by
  intro first second es es'
  have hreports := exitCodes_reported twoEnds
  have hfirst : Transcript first.wait es (some (.ok 3, first.spent (some 3))) :=
    (transcript_wait_iff rfl rfl).mpr ⟨some 3, rfl, rfl⟩
  have hsecond : Transcript second.wait es' (some (exitResult none, second.spent none)) :=
    (transcript_wait_iff rfl rfl).mpr ⟨none, rfl, rfl⟩
  have hfaithful : Faithful twoEnds es := by
    intro x hx
    obtain rfl := List.mem_singleton.mp hx
    rfl
  have hfaithful' : Faithful twoEnds es' := by
    intro x hx
    obtain rfl := List.mem_singleton.mp hx
    rfl
  obtain ⟨e, he⟩ := (hreports.waits 1 [] second es' _ _ .start hsecond hfaithful').2 rfl
  refine ⟨Faithful.append_iff.mpr ⟨hfaithful, hfaithful'⟩, hfirst, ?_, e, ?_⟩
  · exact ((hreports.waits 0 [] first es _ _ .start hfirst hfaithful).1 3 rfl).2
  · rw [← he]
    exact hsecond

end AgentLaunch.Ssh
