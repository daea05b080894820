import AgentLaunch.Proofs.Ssh.CommandCourse

/-!
# One connection at a time

A session holds at most one connection, makes a new one only when it holds none, and takes leave of
it when it is closed.  What it holds can be told from its events alone: a login that is accepted
gains a connection, the news that it has ended loses it, and so do a failed ping and the end of the
session.

* `Fitting` — every request fits the connection that is held when it is made.
* `Minds` — what a part of an operation does to the connection, told from its events.
* `Session.Action` — the operations.
* **`CommandCourse`** — how every operation but closing goes, whatever is replied:
  `transcript_perform`; how closing goes is `transcript_close`.

`heldAfter` looks at an event and at nothing else, so the connection that is held after a history is
a fold over its events.  `Minds` says of a part of an operation that its requests fit and that the
session then holds what the fold gives.  It is closed under sequencing; the parts have it one by
one, and so do operations, whether they come to their end or are cut off.

Closing is treated apart, because it is the one operation that takes leave and the one after which
nothing can be asked.  The lists in the last section, of the connections that were made, used and
left, are what `SessionHistory` counts.
-/

namespace AgentLaunch.Ssh

open Dialogue (Transcript)

/-! ## The connection, as the events tell -/

/-- The call in a request, with or without a time limit. -/
def callOf (x : TimedEvent) : Call :=
  match x.request with
  | .patient c => c
  | .limited c => c

/-- The connection that is held after an event. -/
def heldAfter (held : Option ConnectionId) (x : TimedEvent) : Option ConnectionId :=
  match heard? x with
  | some ⟨.authenticate connection _ _, .ok true⟩ => some connection
  | some ⟨.isClosed _, true⟩ => none
  | _ => held

/-- What may be asked for while a connection is held, or none is. -/
def Call.Fits (held : Option ConnectionId) : Call → Prop
  | connect _ => held = none
  | authenticate _ _ _ => held = none
  | isClosed connection => held = some connection
  | openChannel connection => held = some connection
  | disconnect connection => held = some connection
  | _ => True

/-- **Every request fits the connection that is held** when it is made. -/
def Fitting : Option ConnectionId → List TimedEvent → Prop
  | _, [] => True
  | held, x :: es => (callOf x).Fits held ∧ Fitting (heldAfter held x) es

lemma fitting_append_iff {held : Option ConnectionId} {es es' : List TimedEvent} :
    Fitting held (es ++ es') ↔ Fitting held es ∧ Fitting (es.foldl heldAfter held) es' := by
  induction es generalizing held with
  | nil => simp [Fitting]
  | cons x es ih => rw [List.cons_append, Fitting, Fitting, ih, and_assoc]; rfl

/-- What a step or an operation does to the session, as far as it does not end the connection. -/
structure Minds (s : Session) (es : List TimedEvent) (s' : Session) : Prop where
  fitting : Fitting s.connection es
  held : s'.connection = es.foldl heldAfter s.connection
  /-- Nothing but the connection changes. -/
  others : { s' with connection := none } = { s with connection := none }

section Minding

variable {s s₁ s' : Session} {es : List Event}

lemma Minds.closed_eq {es : List TimedEvent} (h : Minds s es s') : s'.closed = s.closed :=
  (Session.mk.inj h.others).2.2.2

lemma Minds.append {es es' : List TimedEvent} (h : Minds s es s₁) (h' : Minds s₁ es' s') :
    Minds s (es ++ es') s' where
  fitting := fitting_append_iff.mpr ⟨h.fitting, h.held ▸ h'.fitting⟩
  held := by rw [List.foldl_append, ← h.held, h'.held]
  others := h'.others.trans h.others

lemma minds_of_minor (h : ∀ x ∈ es, x.request.minor = true) :
    Minds s (es.map patiently) s := by
  have hone : ∀ x : Event, x.request.minor = true → ∀ held,
      x.request.Fits held ∧ heldAfter held (patiently x) = held := by
    rintro ⟨c, reply⟩ hminor held
    cases c <;> first | exact ⟨trivial, rfl⟩ | cases hminor
  induction es with
  | nil => exact ⟨trivial, rfl, rfl⟩
  | cons x es ih =>
      obtain ⟨hx, hes⟩ := List.forall_mem_cons.mp h
      obtain ⟨hfits, hkeeps⟩ := hone x hx s.connection
      obtain ⟨hfitting, hheld, -⟩ := ih hes
      refine ⟨⟨hfits, ?_⟩, ?_, rfl⟩
      · rwa [hkeeps]
      · rwa [List.map_cons, List.foldl_cons, hkeeps]

lemma LogsIn.minds {r : Except TransportError ConnectionId} (h : LogsIn s es r s')
    (hnone : s.connection = none) : Minds s (es.map patiently) s' := by
  cases h with
  | unreached f => exact ⟨⟨hnone, trivial⟩, rfl, rfl⟩
  | unanswered connection f => exact ⟨⟨hnone, hnone, trivial⟩, rfl, rfl⟩
  | rejected connection => exact ⟨⟨hnone, hnone, trivial⟩, rfl, rfl⟩
  | accepted connection => exact ⟨⟨hnone, hnone, trivial⟩, rfl, rfl⟩

lemma MakesSure.minds {r : Except TransportError ConnectionId} (h : MakesSure s es r s') :
    Minds s (es.map patiently) s' := by
  cases h with
  | closed hclosed => exact ⟨trivial, rfl, rfl⟩
  | held hopen hheld => exact ⟨⟨hheld, trivial⟩, rfl, rfl⟩
  | lost hopen hheld hlogin =>
      have hrest := hlogin.minds rfl
      exact ⟨⟨hheld, hrest.fitting⟩, hrest.held, hrest.others⟩
  | absent hopen hnone hlogin => exact hlogin.minds hnone

/-- Whoever is sure of a connection holds it. -/
lemma MakesSure.holds {connection : ConnectionId} (h : MakesSure s es (.ok connection) s') :
    s'.connection = some connection := by
  cases h with
  | held hopen hheld => exact hheld
  | lost hopen hheld hlogin => cases hlogin; rfl
  | absent hopen hnone hlogin => cases hlogin; rfl

lemma RunsCommand.minds {α : Type} {r : Except TransportError α} (h : RunsCommand s es r s') :
    Minds s (es.map patiently) s' := by
  cases h with
  | unconnected hsure => exact hsure.minds
  | @connected _ _ connection reply _ _ hsure hrest =>
      have hopened : Minds s' [patiently (asked (.openChannel connection) reply)] s' :=
        ⟨⟨hsure.holds, trivial⟩, rfl, rfl⟩
      rw [List.map_append, List.map_cons]
      exact hsure.minds.append (hopened.append (minds_of_minor hrest))

end Minding

/-! ## Operations -/

namespace Session

/-- What can be asked of a session. -/
inductive Action where
  | ping
  | execute (command : String) (limit : Option Nat)
  | putFile (path : String) (contents : Bytes)
  | fileExists (path : String)
  | close
  deriving DecidableEq

/-- What an action gives if it succeeds. -/
abbrev Action.Reply : Action → Type
  | ping => Bool
  | execute _ _ => Process
  | putFile _ _ => Unit
  | fileExists _ => Bool
  | close => Unit

/-- The operation that an action asks for. -/
def Action.perform : (a : Action) → Operation a.Reply
  | ping => Session.ping
  | execute command limit => Session.execute command limit
  | putFile path contents => Session.putFile path contents
  | fileExists path => Session.fileExists path
  | close => Session.close

end Session

open Session (Action)

/-- What an operation has shown of a conversation: all of it, or the part before the request in
which it was cut off. -/
inductive Begins (whole : List Event) : List TimedEvent → Prop where
  | atLeisure : Begins whole (whole.map patiently)
  | inTime : Begins whole (whole.map promptly)
  | upTo {plain rest : List Event} {c : Call} {reply : c.Reply}
      (hwhole : whole = plain ++ asked c reply :: rest) :
      Begins whole (plain.map promptly ++ [cutOff c])

/-- **How every operation but closing goes.**  A ping that has failed, or was cut off, leaves the
session without a connection. -/
inductive CommandCourse (a : Action) (s : Session) :
    List TimedEvent → Except TransportError a.Reply → Session → Prop where
  | completed {plain : List Event} {es : List TimedEvent} {r : Except TransportError a.Reply}
      {s' : Session} (hrun : RunsCommand s plain r s') (hes : Begins plain es)
      (hheard : heard es = plain) (hcalls : es.map callOf = (plain.map patiently).map callOf)
      (hping : a = .ping → ∃ b, r = .ok b) : CommandCourse a s es r s'
  | failed (hping : a = .ping) {whole : List Event} {es : List TimedEvent} {e : TransportError}
      {result : Except TransportError Nat} {s₁ : Session} (hrun : RunsCommand s whole result s₁)
      (hes : Begins whole es) : CommandCourse a s es (.error e) { s with connection := none }

section Courses

variable {s s' : Session} {es : List TimedEvent}

@[simp] lemma heard_map_promptly (plain : List Event) : heard (plain.map promptly) = plain := by
  rw [heard, List.filterMap_map]
  exact List.filterMap_some

lemma map_callOf_promptly (plain : List Event) :
    (plain.map promptly).map callOf = (plain.map patiently).map callOf := by
  rw [List.map_map, List.map_map]
  rfl

lemma CommandCourse.patient {a : Action} {plain : List Event} {r : Except TransportError a.Reply}
    (h : RunsCommand s plain r s') (ha : a ≠ .ping) :
    CommandCourse a s (plain.map patiently) r s' :=
  .completed h .atLeisure (heard_map_patiently plain) rfl fun hping => absurd hping ha

lemma transcript_perform {a : Action} (ha : a ≠ .close) {r : Except TransportError a.Reply}
    (ht : Transcript (a.perform s) es (some (r, s'))) : CommandCourse a s es r s' := by
  cases a with
  | ping =>
      rcases transcript_ping_cases ht with
        ⟨plain, code, hrun, rfl, rfl⟩ | ⟨plain, e, s₁, hrun, rfl, rfl, rfl⟩
          | ⟨plain, c, reply, rest, result, s₁, hrun, rfl, rfl, rfl⟩
      · exact .completed (hrun.map (· == 0)) .inTime (heard_map_promptly plain)
          (map_callOf_promptly plain) fun _ => ⟨_, rfl⟩
      · rw [hrun.minds.others]
        exact .failed rfl hrun .inTime
      · exact .failed rfl hrun (.upTo rfl)
  | execute command limit =>
      obtain ⟨plain, hplain, rfl⟩ := takes_patiently_iff.mp ht
      exact .patient (takes_startCommand_course hplain) (by simp)
  | putFile path contents =>
      obtain ⟨plain, hplain, rfl⟩ := takes_patiently_iff.mp ht
      exact .patient (takes_upload_course hplain) (by simp)
  | fileExists path =>
      obtain ⟨plain, hplain, rfl⟩ := takes_patiently_iff.mp ht
      obtain ⟨result, hrun, rfl⟩ := takes_map_iff.mp hplain
      exact .patient ((takes_runCommand_course hrun).map _) (by simp)
  | close => exact absurd rfl ha

/-- Leave is taken of the connection that is held, if there is one. -/
def leaveTaken (held : Option ConnectionId) : List TimedEvent :=
  held.toList.map fun connection => patiently (asked (.disconnect connection) ())

/-- A session that is closed for the first time takes leave of the connection it holds. -/
lemma transcript_close (hopen : s.closed = false) {r : Except TransportError Unit}
    (ht : Transcript (Session.close s) es (some (r, s'))) :
    es = leaveTaken s.connection ∧ r = .ok ()
      ∧ s' = { s with connection := none, closed := true } := by
  obtain ⟨plain, hplain, rfl⟩ := takes_patiently_iff.mp ht
  replace hplain := takes_get_bind_iff.mp hplain
  simp only [hopen, Bool.false_eq_true, if_false] at hplain
  cases hheld : s.connection with
  | none =>
      simp only [hheld] at hplain
      obtain ⟨rfl, hr⟩ := Dialogue.transcript_done_iff.mp hplain
      obtain ⟨rfl, rfl⟩ := Prod.mk.inj (Option.some.inj hr)
      exact ⟨rfl, rfl, rfl⟩
  | some connection =>
      simp only [hheld] at hplain
      obtain ⟨_, rfl, rfl, rfl⟩ := takes_ask_iff.mp hplain
      exact ⟨rfl, rfl, rfl⟩

lemma close_of_closed (hclosed : s.closed = true) : Session.close s = .done (.ok (), s) := by
  obtain ⟨target, timeoutSecs, connection, closed⟩ := s
  obtain rfl : closed = true := hclosed
  rfl

/-- A closed session refuses everything without asking anybody. -/
lemma perform_of_closed {a : Action} (ha : a ≠ .close) (hclosed : s.closed = true)
    (hnone : s.connection = none) : a.perform s = .done (.error .closed, s) := by
  obtain ⟨target, timeoutSecs, connection, closed⟩ := s
  obtain rfl : closed = true := hclosed
  obtain rfl : connection = none := hnone
  cases a with
  | close => exact absurd rfl ha
  | _ => rfl

end Courses

/-! ## What an operation does to the connection -/

/-- The connection that the session holds after an operation whose events have left `held`. -/
def Session.Action.keeps (a : Action) (r : Except TransportError a.Reply)
    (held : Option ConnectionId) : Option ConnectionId :=
  match a with
  | .close => none
  | .ping => if r.isOk then held else none
  | _ => held

/-- The connection of a request for a channel. -/
def Call.opensOn? : Call → Option ConnectionId
  | openChannel connection => some connection
  | _ => none

/-- The connection of a leave that is taken. -/
def Call.leaves? : Call → Option ConnectionId
  | disconnect connection => some connection
  | _ => none

/-- The connection of a login that was accepted. -/
def admits? : Event → Option ConnectionId
  | ⟨.authenticate connection _ _, .ok true⟩ => some connection
  | _ => none

/-- The connections on which channels have been asked for. -/
def used (es : List TimedEvent) : List ConnectionId := (es.map callOf).filterMap Call.opensOn?

/-- The connections that have been made, in order. -/
def logins (es : List TimedEvent) : List ConnectionId := (heard es).filterMap admits?

/-- The connections that leave has been taken of. -/
def leaves (es : List TimedEvent) : List ConnectionId := (es.map callOf).filterMap Call.leaves?

/-- The attempts to connect. -/
def attempts (es : List TimedEvent) : List Call :=
  (es.map callOf).filter fun c => c matches .connect _

/-- The connection could not be made, or its login was not accepted. -/
def FailsToConnect : Event → Prop
  | ⟨.connect _, .error _⟩ => True
  | ⟨.authenticate _ _ _, .error _⟩ => True
  | ⟨.authenticate _ _ _, .ok false⟩ => True
  | _ => False

section Effects

variable {s s' : Session} {plain whole : List Event} {es : List TimedEvent}

lemma Begins.fitting {held : Option ConnectionId} (h : Begins whole es)
    (hwhole : Fitting held (whole.map patiently)) : Fitting held es := by
  have hprompt : ∀ plain held rest, Fitting held (List.map patiently plain ++ rest) →
      Fitting held (List.map promptly plain ++ rest) := by
    intro plain
    induction plain with
    | nil => exact fun _ _ => id
    | cons x plain ih => exact fun held rest hfitting => ⟨hfitting.1, ih _ _ hfitting.2⟩
  cases h with
  | atLeisure => exact hwhole
  | inTime => simpa using hprompt whole held [] (by simpa using hwhole)
  | @upTo plain rest c reply hcut =>
      rw [hcut, List.map_append, List.map_cons] at hwhole
      obtain ⟨hfitting, hc⟩ := fitting_append_iff.mp (hprompt plain held _ hwhole)
      exact fitting_append_iff.mpr ⟨hfitting, hc.1, trivial⟩

lemma Begins.mem_of_mem_heard (h : Begins whole es) {x : Event} (hx : x ∈ heard es) :
    x ∈ whole := by
  cases h with
  | atLeisure => rwa [heard_map_patiently] at hx
  | inTime => rwa [heard_map_promptly] at hx
  | @upTo plain rest c reply hcut =>
      have hheard : heard (List.map promptly plain ++ [cutOff c]) = plain := by
        rw [heard, List.filterMap_append, ← heard, heard_map_promptly]
        exact List.append_nil plain
      rw [hheard] at hx
      rw [hcut]
      exact List.mem_append_left _ hx

/-- What begins a conversation begins with its first request. -/
lemma Begins.head (h : Begins whole es) {x : Event} {rest : List Event}
    (hwhole : whole = x :: rest) :
    ∃ y more, es = y :: more ∧ callOf y = x.request := by
  cases h with
  | atLeisure => exact ⟨patiently x, rest.map patiently, by rw [hwhole]; rfl, rfl⟩
  | inTime => exact ⟨promptly x, rest.map promptly, by rw [hwhole]; rfl, rfl⟩
  | @upTo plain more c reply hcut =>
      cases plain with
      | nil =>
          obtain ⟨rfl, -⟩ := List.cons.inj (hwhole.symm.trans hcut)
          exact ⟨cutOff c, [], rfl, rfl⟩
      | cons z plain =>
          obtain ⟨rfl, -⟩ := List.cons.inj (hwhole.symm.trans hcut)
          exact ⟨promptly x, _, rfl, rfl⟩

/-- Without a connection, an open session begins every command with an attempt to connect. -/
lemma RunsCommand.head {α : Type} {r : Except TransportError α} (h : RunsCommand s whole r s')
    (hopen : s.closed = false) (hnone : s.connection = none) :
    ∃ reply rest, whole = asked (.connect s.target.host) reply :: rest := by
  have hlogin : ∀ {es r s'}, LogsIn s es r s' →
      ∃ reply rest, es = asked (.connect s.target.host) reply :: rest := by
    rintro _ _ _ ⟨⟩ <;> exact ⟨_, _, rfl⟩
  have hsure : ∀ {es r s'}, MakesSure s es r s' →
      ∃ reply rest, es = asked (.connect s.target.host) reply :: rest := by
    rintro _ _ _ (hclosed | ⟨_, hheld⟩ | ⟨_, hheld, _⟩ | ⟨_, _, hfront⟩)
    · simp [hopen] at hclosed
    · simp [hnone] at hheld
    · simp [hnone] at hheld
    · exact hlogin hfront
  cases h with
  | unconnected hfront => exact hsure hfront
  | connected hfront hrest =>
      obtain ⟨reply, rest, rfl⟩ := hsure hfront
      exact ⟨reply, _, rfl⟩

lemma LogsIn.of_failsToConnect {r : Except TransportError ConnectionId}
    (h : LogsIn s plain r s') {x : Event} (hx : x ∈ plain) (hfails : FailsToConnect x) :
    (∃ e, r = .error e) ∧ s' = s := by
  cases h with
  | unreached f => exact ⟨⟨_, rfl⟩, rfl⟩
  | unanswered connection f => exact ⟨⟨_, rfl⟩, rfl⟩
  | rejected connection => exact ⟨⟨_, rfl⟩, rfl⟩
  | accepted connection =>
      simp only [List.mem_cons, List.not_mem_nil, or_false] at hx
      rcases hx with rfl | rfl <;> exact hfails.elim

lemma MakesSure.of_failsToConnect {r : Except TransportError ConnectionId}
    (h : MakesSure s plain r s') {x : Event} (hx : x ∈ plain) (hfails : FailsToConnect x) :
    (∃ e, r = .error e) ∧ s'.connection = none ∧ s'.closed = false := by
  cases h with
  | closed hclosed => cases hx
  | held hopen hheld =>
      obtain rfl := List.mem_singleton.mp hx
      exact hfails.elim
  | lost hopen hheld hlogin =>
      rcases List.mem_cons.mp hx with rfl | hx
      · exact hfails.elim
      · obtain ⟨hr, rfl⟩ := hlogin.of_failsToConnect hx hfails
        exact ⟨hr, rfl, hopen⟩
  | absent hopen hnone hlogin =>
      obtain ⟨hr, rfl⟩ := hlogin.of_failsToConnect hx hfails
      exact ⟨hr, hnone, hopen⟩

lemma not_failsToConnect_of_minor {x : Event} (h : x.request.minor = true) :
    ¬ FailsToConnect x := by
  obtain ⟨c, reply⟩ := x
  cases c <;> first | exact id | cases h

/-- A connection that could not be made is the end of the command, and leaves the session open and
without one. -/
lemma RunsCommand.of_failsToConnect {α : Type} {r : Except TransportError α}
    (h : RunsCommand s whole r s') {x : Event} (hx : x ∈ whole) (hfails : FailsToConnect x) :
    (∃ e, r = .error e) ∧ s'.connection = none ∧ s'.closed = false := by
  cases h with
  | unconnected hsure => exact ⟨⟨_, rfl⟩, (hsure.of_failsToConnect hx hfails).2⟩
  | connected hsure hrest =>
      rcases List.mem_append.mp hx with hx | hx
      · obtain ⟨⟨_, hr⟩, -⟩ := hsure.of_failsToConnect hx hfails
        cases hr
      · rcases List.mem_cons.mp hx with rfl | hx
        · exact hfails.elim
        · exact absurd hfails (not_failsToConnect_of_minor (hrest x hx))

end Effects

end AgentLaunch.Ssh
