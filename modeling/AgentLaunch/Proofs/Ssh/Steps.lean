import AgentLaunch.Proofs.Transcript
import AgentLaunch.Ssh.Session

/-!
# Transcripts of a session's steps

A step of an operation talks to the network, may change the session and may fail.  `Takes` says of
a step and the session before it what can be read afterwards: the requests with their replies, the
result, and the session then.  There is one law for each way in which steps are made.

* `Takes`, `takes_bind_iff` — a step after another goes on from the session that the first one
  leaves, unless the first one has failed.
* `transcript_wait_iff` — waiting for the end of a process, which asks for it once at most.
* `transcript_patient_iff`, `transcript_limited_some` — what an operation has heard, with or
  without a time limit.

A step is a conversation that may change the session and may fail, so a law about sequencing is one
about all three.  `takes_bind_iff` says it once: a failure is the end of the matter, and the session
is left as the failing part has left it.  The laws for the other ways to make a step are
equivalences as well, so that a step can be taken apart by rewriting, and its transcript is known
without loss.

Waiting is a conversation of a process and not a step of a session.  A process remembers its exit
code, and so it answers a second question by itself; if it has none to remember, the end can no
longer be asked for, and waiting fails.
-/

namespace AgentLaunch.Ssh

open Dialogue (Transcript)

/-- A request to the network and the reply it got. -/
abbrev Event := Dialogue.Event signature

/-- The event of a call that got some reply. -/
abbrev asked (c : Call) (reply : c.Reply) : Event := ⟨c, reply⟩

/-! ## Steps -/

/-- `Takes step s es r s'`: from the session `s`, with the replies in `es`, the step makes the
requests in `es`, comes to the result `r` and leaves the session `s'`. -/
def Takes {α : Type} (step : Step α) (s : Session) (es : List Event)
    (r : Except TransportError α) (s' : Session) : Prop :=
  Transcript ((step.run).run s) es (some (r, s'))

section Laws

variable {α β : Type} {s s' : Session} {es : List Event}

@[simp] lemma takes_pure_iff {a : α} {r : Except TransportError α} :
    Takes (pure a) s es r s' ↔ es = [] ∧ r = .ok a ∧ s' = s := by
  refine Dialogue.transcript_done_iff.trans ?_
  simp

@[simp] lemma takes_throw_iff {e : TransportError} {r : Except TransportError α} :
    Takes (throw e) s es r s' ↔ es = [] ∧ r = .error e ∧ s' = s := by
  refine Dialogue.transcript_done_iff.trans ?_
  simp

/-- **Sequencing.** -/
lemma takes_bind_iff {x : Step α} {f : α → Step β} {r : Except TransportError β} :
    Takes (x >>= f) s es r s'
      ↔ (∃ first a s₁ second, Takes x s first (.ok a) s₁ ∧ Takes (f a) s₁ second r s'
          ∧ es = first ++ second)
        ∨ ∃ e, Takes x s es (.error e) s' ∧ r = .error e := by
  refine Dialogue.transcript_bind_iff.trans ?_
  constructor
  · rintro (⟨first, ⟨e | a, s₁⟩, second, h₁, h₂, rfl⟩ | ⟨-, h⟩)
    · obtain ⟨rfl, h⟩ := Dialogue.transcript_done_iff.mp h₂
      obtain ⟨rfl, rfl⟩ := Prod.mk.inj (Option.some.inj h)
      rw [List.append_nil]
      exact .inr ⟨e, h₁, rfl⟩
    · exact .inl ⟨first, a, s₁, second, h₁, h₂, rfl⟩
    · cases h
  · rintro (⟨first, a, s₁, second, h₁, h₂, rfl⟩ | ⟨e, h, rfl⟩)
    · exact .inl ⟨first, (.ok a, s₁), second, h₁, h₂, rfl⟩
    · exact .inl ⟨es, (.error e, s'), [], h, .done _, by simp⟩

/-- A step whose result is turned into another one. -/
lemma takes_map_iff {step : Step α} {f : α → β} {r : Except TransportError β} :
    Takes (step >>= fun a => pure (f a)) s es r s'
      ↔ ∃ result, Takes step s es result s' ∧ r = result.map f := by
  constructor
  · intro h
    rcases takes_bind_iff.mp h with ⟨_, a, _, _, hstep, hlast, rfl⟩ | ⟨e, hstep, rfl⟩
    · obtain ⟨rfl, rfl, rfl⟩ := takes_pure_iff.mp hlast
      exact ⟨.ok a, by simpa using hstep, rfl⟩
    · exact ⟨.error e, hstep, rfl⟩
  · rintro ⟨e | a, hstep, rfl⟩
    · exact takes_bind_iff.mpr (.inr ⟨e, hstep, rfl⟩)
    · exact takes_bind_iff.mpr
        (.inl ⟨es, a, s', [], hstep, takes_pure_iff.mpr ⟨rfl, rfl, rfl⟩, by simp⟩)

/-- A conversation that has nothing to do with the session. -/
lemma takes_lift_iff {d : Conversation α} {r : Except TransportError α} :
    Takes (ExceptT.lift (StateT.lift d)) s es r s'
      ↔ ∃ a, Transcript d es (some a) ∧ r = .ok a ∧ s' = s := by
  constructor
  · intro h
    rcases Dialogue.transcript_bind_iff.mp h with ⟨_, _, _, h₁, h₂, rfl⟩ | ⟨-, hnone⟩
    · rcases Dialogue.transcript_bind_iff.mp h₁ with ⟨_, a, _, hd, hpair, rfl⟩ | ⟨-, hnone⟩
      · obtain ⟨rfl, hsame⟩ := Dialogue.transcript_done_iff.mp hpair
        obtain rfl := Option.some.inj hsame
        obtain ⟨rfl, hr⟩ := Dialogue.transcript_done_iff.mp h₂
        obtain ⟨rfl, rfl⟩ := Prod.mk.inj (Option.some.inj hr)
        exact ⟨a, by simpa using hd, rfl, rfl⟩
      · cases hnone
    · cases hnone
  · rintro ⟨a, hd, rfl, rfl⟩
    have hpair : Transcript (d >>= fun a => pure (a, s')) es (some (a, s')) :=
      Dialogue.transcript_bind_iff.mpr (.inl ⟨es, a, [], hd, .done _, by simp⟩)
    exact Dialogue.transcript_bind_iff.mpr (.inl ⟨es, (a, s'), [], hpair, .done _, by simp⟩)

lemma takes_ask_iff {c : Call} {r : Except TransportError c.Reply} :
    Takes (Session.ask c) s es r s'
      ↔ ∃ reply, es = [asked c reply] ∧ r = .ok reply ∧ s' = s := by
  refine takes_lift_iff.trans ?_
  constructor
  · rintro ⟨reply, h, rfl, rfl⟩
    obtain ⟨_, rfl, hreply⟩ := Dialogue.transcript_request_iff.mp h
    obtain rfl := Option.some.inj hreply
    exact ⟨reply, rfl, rfl, rfl⟩
  · rintro ⟨reply, rfl, rfl, rfl⟩
    exact ⟨reply, Dialogue.transcript_request_iff.mpr ⟨reply, rfl, rfl⟩, rfl, rfl⟩

/-- A request, and what follows its reply. -/
lemma takes_ask_bind_iff {c : Call} {f : c.Reply → Step β} {r : Except TransportError β} :
    Takes (Session.ask c >>= f) s es r s'
      ↔ ∃ reply rest, Takes (f reply) s rest r s' ∧ es = asked c reply :: rest :=
  Dialogue.transcript_ask_iff

/-- A look at the session. -/
lemma takes_get_bind_iff {f : Session → Step β} {r : Except TransportError β} :
    Takes (get >>= f) s es r s' ↔ Takes (f s) s es r s' :=
  Iff.rfl

/-- A change of the session. -/
lemma takes_modify_bind_iff {g : Session → Session} {f : Unit → Step β}
    {r : Except TransportError β} :
    Takes (modify g >>= f) s es r s' ↔ Takes (f ()) (g s) es r s' :=
  Iff.rfl

lemma takes_liftExcept_iff {a : Except TransportError α} {r : Except TransportError α} :
    Takes (liftExcept a) s es r s' ↔ es = [] ∧ r = a ∧ s' = s := by
  cases a with
  | ok a => exact takes_pure_iff
  | error e => exact takes_throw_iff

end Laws

/-! ## Waiting for the end of a process -/

/-- What a process does with its streams before it is waited for. -/
def Process.drops (p : Process) : List Event :=
  (if p.hasOutput then [asked (.dropOutput p.channel) ()] else [])
    ++ (if p.hasInput then [asked (.dropInput p.channel) ()] else [])

/-- A process that has been waited for and has not been waited for before. -/
def Process.spent (p : Process) (exitCode : Option Nat) : Process :=
  { p with hasOutput := false, hasInput := false, awaitable := false, exitCode }

/-- What is made of the end of a command. -/
def exitResult : Option Nat → Except TransportError Nat
  | some code => .ok code
  | none => .error (.command "channel closed without exit status")

section Wait

variable {p : Process} {es : List Event}

/-- A request whose reply says nothing, before a conversation that goes one way only. -/
lemma transcript_tell_iff {α : Type} (c : Call) (reply : c.Reply) (honly : ∀ r : c.Reply, r = reply)
    {d : Conversation α} {tail : List Event} {a : α}
    (hd : ∀ es o, Transcript d es o ↔ es = tail ∧ o = some a) (es : List Event) (o : Option α) :
    Transcript (.ask (S := signature) c fun _ => d) es o
      ↔ es = asked c reply :: tail ∧ o = some a := by
  refine Dialogue.transcript_ask_iff.trans ?_
  constructor
  · rintro ⟨r, rest, h, rfl⟩
    obtain rfl := honly r
    obtain ⟨rfl, rfl⟩ := (hd rest o).mp h
    exact ⟨rfl, rfl⟩
  · rintro ⟨rfl, rfl⟩
    exact ⟨reply, tail, (hd tail _).mpr ⟨rfl, rfl⟩, rfl⟩

lemma transcript_dropUnclaimed_iff {o : Option Process} :
    Transcript p.dropUnclaimed es o
      ↔ es = p.drops ∧ o = some { p with hasOutput := false, hasInput := false } := by
  obtain ⟨channel, hasOutput, hasInput, awaitable, exitCode⟩ := p
  have hdone : ∀ es o,
      Transcript (.done ⟨channel, false, false, awaitable, exitCode⟩ : Conversation Process) es o
        ↔ es = [] ∧ o = some ⟨channel, false, false, awaitable, exitCode⟩ :=
    fun _ _ => Dialogue.transcript_done_iff
  have hinput := transcript_tell_iff (.dropInput channel) () (fun _ => rfl) hdone
  cases hasOutput with
  | false =>
      cases hasInput with
      | false => exact hdone es o
      | true => exact hinput es o
  | true =>
      cases hasInput with
      | false => exact transcript_tell_iff (.dropOutput channel) () (fun _ => rfl) hdone es o
      | true => exact transcript_tell_iff (.dropOutput channel) () (fun _ => rfl) hinput es o

/-- A code that is known is given again, without asking. -/
lemma wait_of_known {code : Nat} (h : p.exitCode = some code) : p.wait = pure (.ok code, p) := by
  unfold Process.wait
  rw [h]

/-- The end is asked for after the streams have been given up. -/
lemma transcript_wait_iff (hcode : p.exitCode = none) (hawaitable : p.awaitable = true)
    {o : Option (Except TransportError Nat × Process)} :
    Transcript p.wait es o
      ↔ ∃ status, es = p.drops ++ [asked (.awaitEnd p.channel) status]
          ∧ o = some (exitResult status, p.spent status) := by
  unfold Process.wait
  rw [hcode]
  refine Dialogue.transcript_bind_iff.trans ?_
  constructor
  · rintro (⟨_, q, second, hfirst, hsecond, rfl⟩ | ⟨hfirst, -⟩)
    · obtain ⟨rfl, hq⟩ := transcript_dropUnclaimed_iff.mp hfirst
      obtain rfl := Option.some.inj hq
      rw [if_pos hawaitable] at hsecond
      obtain ⟨status, rest, hrest, rfl⟩ := Dialogue.transcript_ask_iff.mp hsecond
      refine ⟨status, ?_⟩
      cases status with
      | none =>
          obtain ⟨rfl, rfl⟩ := Dialogue.transcript_done_iff.mp hrest
          exact ⟨rfl, by simp [exitResult, Process.spent, hcode]⟩
      | some code =>
          obtain ⟨rfl, rfl⟩ := Dialogue.transcript_done_iff.mp hrest
          exact ⟨rfl, rfl⟩
    · obtain ⟨-, hq⟩ := transcript_dropUnclaimed_iff.mp hfirst
      cases hq
  · rintro ⟨status, rfl, rfl⟩
    refine .inl ⟨p.drops, _, _, transcript_dropUnclaimed_iff.mpr ⟨rfl, rfl⟩, ?_, rfl⟩
    rw [if_pos hawaitable]
    refine Dialogue.transcript_ask_iff.mpr ⟨status, [], ?_, rfl⟩
    cases status with
    | none =>
        exact Dialogue.transcript_done_iff.mpr ⟨rfl, by simp [exitResult, Process.spent, hcode]⟩
    | some code => exact Dialogue.transcript_done_iff.mpr ⟨rfl, rfl⟩

/-- The end cannot be asked for a second time. -/
lemma transcript_wait_again (hcode : p.exitCode = none) (hawaitable : p.awaitable = false)
    {o : Option (Except TransportError Nat × Process)} (ht : Transcript p.wait es o) :
    es = p.drops ∧ o = some (.error .closed, p.spent none) := by
  unfold Process.wait at ht
  rw [hcode] at ht
  rcases Dialogue.transcript_bind_iff.mp ht with ⟨_, q, _, hfirst, hsecond, rfl⟩ | ⟨hfirst, -⟩
  · obtain ⟨rfl, hq⟩ := transcript_dropUnclaimed_iff.mp hfirst
    obtain rfl := Option.some.inj hq
    simp only [hawaitable] at hsecond
    obtain ⟨rfl, rfl⟩ := Dialogue.transcript_done_iff.mp hsecond
    rw [List.append_nil]
    exact ⟨rfl, by simp [Process.spent, hcode]⟩
  · obtain ⟨-, hq⟩ := transcript_dropUnclaimed_iff.mp hfirst
    cases hq

end Wait

/-! ## Operations -/

/-- A request of an operation and the reply it got, if it has waited for that. -/
abbrev TimedEvent := Dialogue.Event signature.timed

/-- The event of a request that is waited for as long as it takes. -/
def patiently (x : Event) : TimedEvent := ⟨.patient x.request, x.reply⟩

/-- What has been heard in an event: nothing if the time was up before the reply. -/
def heard? : TimedEvent → Option Event
  | ⟨.patient request, reply⟩ => some ⟨request, reply⟩
  | ⟨.limited request, some reply⟩ => some ⟨request, reply⟩
  | ⟨.limited _, none⟩ => none

/-- The replies that an operation has heard, with their requests. -/
def heard (es : List TimedEvent) : List Event := es.filterMap heard?

@[simp] lemma heard_map_patiently (es : List Event) : heard (es.map patiently) = es := by
  rw [heard, List.filterMap_map]
  exact List.filterMap_some

section Operations

variable {α : Type} {d : Conversation α} {es : List TimedEvent}

/-- A conversation that nothing cuts off. -/
lemma transcript_patient_iff {o : Option α} :
    Transcript d.patient es o ↔ ∃ plain, Transcript d plain o ∧ es = plain.map patiently := by
  induction d generalizing es with
  | done a =>
      refine Dialogue.transcript_done_iff.trans ?_
      simp [and_comm]
  | unfinished =>
      refine Dialogue.transcript_unfinished_iff.trans ?_
      simp [and_comm]
  | ask c next ih =>
      refine Dialogue.transcript_ask_iff.trans ?_
      constructor
      · rintro ⟨reply, rest, h, rfl⟩
        obtain ⟨plain, hplain, rfl⟩ := (ih reply).mp h
        exact ⟨asked c reply :: plain,
          Dialogue.transcript_ask_iff.mpr ⟨reply, plain, hplain, rfl⟩, rfl⟩
      · rintro ⟨_, h, rfl⟩
        obtain ⟨reply, rest, hrest, rfl⟩ := Dialogue.transcript_ask_iff.mp h
        exact ⟨reply, rest.map patiently, (ih reply).mpr ⟨rest, hrest, rfl⟩, rfl⟩

/-- A conversation that has come to its end in time. -/
lemma transcript_limited_some {a : α} (ht : Transcript d.limited es (some (some a))) :
    Transcript d (heard es) (some a) := by
  induction d generalizing es with
  | done b =>
      obtain ⟨rfl, h⟩ := Dialogue.transcript_done_iff.mp ht
      obtain rfl := Option.some.inj (Option.some.inj h)
      exact .done a
  | unfinished =>
      obtain ⟨-, h⟩ := Dialogue.transcript_unfinished_iff.mp ht
      cases h
  | ask c next ih =>
      rw [Dialogue.limited] at ht
      obtain ⟨reply, rest, hrest, rfl⟩ := Dialogue.transcript_ask_iff.mp ht
      cases reply with
      | none =>
          obtain ⟨-, h⟩ := Dialogue.transcript_done_iff.mp hrest
          cases h
      | some reply =>
          exact Dialogue.transcript_ask_iff.mpr ⟨reply, heard rest, ih reply hrest, rfl⟩

/-- What an operation has done that nothing cuts off. -/
lemma takes_patiently_iff {step : Step α} {s s' : Session} {r : Except TransportError α} :
    Transcript (Session.patiently step s) es (some (r, s'))
      ↔ ∃ plain, Takes step s plain r s' ∧ es = plain.map patiently :=
  transcript_patient_iff

end Operations

end AgentLaunch.Ssh
