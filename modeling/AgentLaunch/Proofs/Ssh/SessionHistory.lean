import AgentLaunch.Proofs.Ssh.Connection

/-!
# Histories of a session

A session lives through one operation after another.  Each of them may get any replies at all, and
the connection may have ended between two of them.

The theorem is an invariant with consequences.  A closed session holds no connection, and what an
open one holds is what its events have left; both are kept by every operation, and the rest of the
fields is said about one operation at an arbitrary point of a history.

* `Proceeds` — the histories of a session.
* `perform_cases`, `Session.Sound.perform` — the step lemmas: what one operation of a history is,
  and what it preserves.
* `Proceeds.quiet`, `Proceeds.length_leaves_le`, **`Proceeds.shares`** — what whole histories keep.
* **`sessions_mindConnection`** — what holds of a session at any point of any history.

Statements about a whole history, such as that leave is taken once at most or that undisturbed
operations share one connection, go by induction on the history from its first operation.  An
operation is undisturbed if no ping has failed in it and no connection was found to have ended; then
at most one login is made, and every channel is asked for on its connection.

That every operation has a result is a part of it, and is shown for any session and any replies.
`sessions_mindConnection_lossy` goes through a refused connection, a lost one and one that
is given up after a ping.
-/

namespace AgentLaunch.Ssh

open Dialogue (Transcript)
open Session (Action)

/-! ## Histories -/

/-- An operation in a history. -/
structure Turn where
  action : Action
  events : List TimedEvent
  result : Except TransportError action.Reply

/-- **Histories of a session**: one operation after another, each with any replies at all. -/
inductive Proceeds : Session → List Turn → Session → Prop where
  | nil (s : Session) : Proceeds s [] s
  | cons {a : Action} {es : List TimedEvent} {r : Except TransportError a.Reply}
      {turns : List Turn} {s s₁ s' : Session}
      (hturn : Transcript (a.perform s) es (some (r, s₁))) (hrest : Proceeds s₁ turns s') :
      Proceeds s (⟨a, es, r⟩ :: turns) s'

/-- The events of a history. -/
def eventsOf (turns : List Turn) : List TimedEvent := turns.flatMap Turn.events

/-- Nothing has ended the connection: no ping has failed, and no connection was found to have
ended. -/
def Turn.Undisturbed (t : Turn) : Prop :=
  (t.action = .ping → ∃ b, t.result = .ok b)
    ∧ ∀ connection, asked (.isClosed connection) true ∉ heard t.events

section Append

variable (es es' : List TimedEvent)

@[simp] lemma used_append : used (es ++ es') = used es ++ used es' := by simp [used]

@[simp] lemma logins_append : logins (es ++ es') = logins es ++ logins es' := by
  simp [logins, heard]

@[simp] lemma attempts_append : attempts (es ++ es') = attempts es ++ attempts es' := by
  simp [attempts]

@[simp] lemma leaves_append : leaves (es ++ es') = leaves es ++ leaves es' := by simp [leaves]

lemma eventsOf_cons (t : Turn) (turns : List Turn) :
    eventsOf (t :: turns) = t.events ++ eventsOf turns := List.flatMap_cons

end Append

/-! ### The connection in an undisturbed operation -/

/-- What an operation in which the connection is not lost makes of it: the connections used, those
made, and the attempts to connect. -/
inductive Traffic (s : Session) :
    List ConnectionId → List ConnectionId → List Call → Session → Prop where
  | kept {connection : ConnectionId} (hheld : s.connection = some connection) :
      Traffic s [connection] [] [] s
  | unmade (hnone : s.connection = none) (tried : List Call) : Traffic s [] [] tried s
  | made (hnone : s.connection = none) (connection : ConnectionId) (tried : List Call) :
      Traffic s [connection] [connection] tried { s with connection := some connection }

section Undisturbed

variable {s s' : Session} {plain : List Event} {es : List TimedEvent}

lemma quiet_of_minor (h : ∀ x ∈ plain, x.request.minor = true) :
    used (plain.map patiently) = [] ∧ logins (plain.map patiently) = []
      ∧ leaves (plain.map patiently) = [] ∧ attempts (plain.map patiently) = [] := by
  induction plain with
  | nil => exact ⟨rfl, rfl, rfl, rfl⟩
  | cons x plain ih =>
      obtain ⟨hx, hplain⟩ := List.forall_mem_cons.mp h
      obtain ⟨c, reply⟩ := x
      cases c <;> first | exact ih hplain | cases hx

/-- A command of an open session whose connection is not lost. -/
lemma RunsCommand.traffic {α : Type} {r : Except TransportError α} (h : RunsCommand s plain r s')
    (hopen : s.closed = false) (hkept : ∀ c, asked (.isClosed c) true ∉ plain) :
    Traffic s (used (plain.map patiently)) (logins (plain.map patiently))
      (attempts (plain.map patiently)) s' := by
  cases h with
  | unconnected hsure =>
      cases hsure with
      | closed hclosed => simp [hopen] at hclosed
      | lost _ hheld hlogin => exact absurd List.mem_cons_self (hkept _)
      | absent _ hnone hlogin => cases hlogin <;> exact .unmade hnone _
  | @connected front rest connection reply _ _ hsure hrest =>
      obtain ⟨hused, hlogins, -, hattempts⟩ := quiet_of_minor hrest
      have hsplit : (front ++ asked (.openChannel connection) reply :: rest).map patiently
          = front.map patiently
            ++ ([patiently (asked (.openChannel connection) reply)] ++ rest.map patiently) := by
        simp
      rw [hsplit, used_append, used_append, logins_append, logins_append, attempts_append,
        attempts_append, hused, hlogins, hattempts]
      cases hsure with
      | held _ hheld => exact .kept hheld
      | lost _ hheld hlogin => exact absurd List.mem_cons_self (hkept _)
      | absent _ hnone hlogin => cases hlogin; exact .made hnone connection _

lemma RunsCommand.leaves_eq {α : Type} {r : Except TransportError α}
    (h : RunsCommand s plain r s') :
    leaves (plain.map patiently) = [] := by
  have hlogin : ∀ {s es r s'}, LogsIn s es r s' → leaves (es.map patiently) = [] := by
    rintro _ _ _ _ ⟨⟩ <;> rfl
  have hsure : ∀ {es r s'}, MakesSure s es r s' → leaves (es.map patiently) = [] := by
    rintro _ _ _ (_ | _ | ⟨_, _, hfront⟩ | ⟨_, _, hfront⟩)
    · rfl
    · rfl
    · exact (hlogin hfront :)
    · exact hlogin hfront
  cases h with
  | unconnected hfront => exact hsure hfront
  | connected hfront hrest =>
      rw [List.map_append, List.map_cons, leaves_append, hsure hfront]
      exact (quiet_of_minor hrest).2.2.1

/-- What begins a conversation asks for nothing else than the conversation does. -/
lemma Begins.map_callOf_prefix {whole : List Event} (h : Begins whole es) :
    es.map callOf <+: (whole.map patiently).map callOf := by
  cases h with
  | atLeisure => exact List.prefix_rfl
  | inTime => exact map_callOf_promptly _ ▸ List.prefix_rfl
  | @upTo plain rest c reply hcut =>
      rw [hcut, List.map_append, map_callOf_promptly, List.map_append, List.map_append]
      exact ⟨(rest.map patiently).map callOf, List.append_assoc _ _ _⟩

/-- Nothing but closing takes leave. -/
lemma CommandCourse.leaves_eq {a : Action} {r : Except TransportError a.Reply}
    (h : CommandCourse a s es r s') : leaves es = [] := by
  cases h with
  | completed hrun hes =>
      exact List.prefix_nil.mp (hrun.leaves_eq ▸ hes.map_callOf_prefix.filterMap _)
  | failed _ hrun hes =>
      exact List.prefix_nil.mp (hrun.leaves_eq ▸ hes.map_callOf_prefix.filterMap _)

lemma CommandCourse.traffic {a : Action} {r : Except TransportError a.Reply}
    (h : CommandCourse a s es r s') (hopen : s.closed = false)
    (hundisturbed : Turn.Undisturbed ⟨a, es, r⟩) :
    Traffic s (used es) (logins es) (attempts es) s' := by
  obtain ⟨hping, hkept⟩ := hundisturbed
  cases h with
  | @completed plain _ _ _ hrun hes hheard hcalls =>
      have hused : used es = used (plain.map patiently) := by rw [used, hcalls, used]
      have hattempts : attempts es = attempts (plain.map patiently) := by
        rw [attempts, hcalls, attempts]
      have hlogins : logins es = logins (plain.map patiently) := by
        rw [logins, hheard, logins, heard_map_patiently]
      rw [hused, hattempts, hlogins]
      exact hrun.traffic hopen fun c hc => hkept c (hheard.symm ▸ hc)
  | failed ha =>
      obtain ⟨_, hr⟩ := hping ha
      cases hr

end Undisturbed

/-! ### What a history keeps -/

section Histories

variable {s s' : Session} {turns : List Turn}

/-- A closed session holds no connection. -/
def Session.Sound (s : Session) : Prop := s.closed = true → s.connection = none

/-- **The turns of a history**: a closed session does nothing, an open one is closed or runs a
command. -/
lemma perform_cases {a : Action} {es : List TimedEvent} {r : Except TransportError a.Reply}
    (hs : s.Sound) (ht : Transcript (a.perform s) es (some (r, s'))) :
    (s.closed = true ∧ es = [] ∧ s' = s)
      ∨ (s.closed = false ∧ a = .close ∧ es = leaveTaken s.connection
        ∧ s' = { s with connection := none, closed := true })
      ∨ (s.closed = false ∧ a ≠ .close ∧ CommandCourse a s es r s') := by
  by_cases ha : a = .close
  · subst ha
    cases hclosed : s.closed with
    | true =>
        rw [Action.perform, close_of_closed hclosed] at ht
        obtain ⟨rfl, hr⟩ := Dialogue.transcript_done_iff.mp ht
        exact .inl ⟨rfl, rfl, (Prod.mk.inj (Option.some.inj hr)).2⟩
    | false =>
        obtain ⟨hes, -, hs'⟩ := transcript_close hclosed ht
        exact .inr (.inl ⟨rfl, rfl, hes, hs'⟩)
  · cases hclosed : s.closed with
    | true =>
        rw [perform_of_closed ha hclosed (hs hclosed)] at ht
        obtain ⟨rfl, hr⟩ := Dialogue.transcript_done_iff.mp ht
        exact .inl ⟨rfl, rfl, (Prod.mk.inj (Option.some.inj hr)).2⟩
    | false => exact .inr (.inr ⟨rfl, ha, transcript_perform ha ht⟩)

lemma CommandCourse.closed_eq {a : Action} {es : List TimedEvent}
    {r : Except TransportError a.Reply} (h : CommandCourse a s es r s') : s'.closed = s.closed := by
  cases h with
  | completed hrun => exact hrun.minds.closed_eq
  | failed => rfl

/-- The step lemma of histories. -/
lemma Session.Sound.perform {a : Action} {es : List TimedEvent} {r : Except TransportError a.Reply}
    (hs : s.Sound) (ht : Transcript (a.perform s) es (some (r, s'))) : s'.Sound := by
  rcases perform_cases hs ht with ⟨-, -, rfl⟩ | ⟨-, -, -, rfl⟩ | ⟨hopen, -, hcourse⟩
  · exact hs
  · exact fun _ => rfl
  · intro hclosed
    rw [hcourse.closed_eq, hopen] at hclosed
    cases hclosed

lemma Proceeds.sound (h : Proceeds s turns s') (hs : s.Sound) : s'.Sound := by
  induction h with
  | nil s => exact hs
  | cons hturn hrest ih => exact ih (hs.perform hturn)

/-- A history leaves its session closed exactly if it was closed before or in it. -/
lemma Proceeds.closed_iff (h : Proceeds s turns s') (hs : s.Sound) :
    s'.closed = true ↔ s.closed = true ∨ ∃ t ∈ turns, t.action = .close := by
  induction h with
  | nil s => simp
  | cons hturn hrest ih =>
      rw [ih (hs.perform hturn)]
      rcases perform_cases hs hturn with ⟨hclosed, -, rfl⟩ | ⟨-, rfl, -, rfl⟩ | ⟨hopen, ha, hcourse⟩
      · simp [hclosed]
      · simp
      · simp [hcourse.closed_eq, hopen, ha]

/-- Nothing happens in a closed session. -/
lemma Proceeds.quiet (h : Proceeds s turns s') (hs : s.Sound) (hclosed : s.closed = true) :
    eventsOf turns = [] := by
  induction h with
  | nil s => rfl
  | cons hturn hrest ih =>
      rcases perform_cases hs hturn with ⟨-, rfl, rfl⟩ | ⟨hopen, -⟩ | ⟨hopen, -⟩
      · rw [eventsOf_cons]
        exact ih hs hclosed
      · simp [hclosed] at hopen
      · simp [hclosed] at hopen

lemma quiet_leaveTaken (held : Option ConnectionId) :
    used (leaveTaken held) = [] ∧ logins (leaveTaken held) = [] ∧ attempts (leaveTaken held) = []
      ∧ leaves (leaveTaken held) = held.toList := by
  cases held <;> exact ⟨rfl, rfl, rfl, rfl⟩

/-- Leave is taken once at most. -/
lemma Proceeds.length_leaves_le (h : Proceeds s turns s') (hs : s.Sound) :
    (leaves (eventsOf turns)).length ≤ 1 := by
  induction h with
  | nil s => exact Nat.zero_le 1
  | cons hturn hrest ih =>
      rw [eventsOf_cons, leaves_append, List.length_append]
      have hs₁ := hs.perform hturn
      rcases perform_cases hs hturn with ⟨-, rfl, -⟩ | ⟨-, -, rfl, rfl⟩ | ⟨-, -, hcourse⟩
      · simpa [leaves] using ih hs₁
      · rw [hrest.quiet hs₁ rfl, (quiet_leaveTaken _).2.2.2]
        exact Option.length_toList_le
      · rw [hcourse.leaves_eq]
        simpa using ih hs₁

/-- **Undisturbed operations share one connection.** -/
lemma Proceeds.shares (h : Proceeds s turns s') (hs : s.Sound)
    (hundisturbed : ∀ t ∈ turns, t.Undisturbed) :
    ∃ connection, (∀ c ∈ used (eventsOf turns), c = connection)
      ∧ (logins (eventsOf turns) = [] ∨ logins (eventsOf turns) = [connection])
      ∧ ∀ held, s.connection = some held → held = connection
          ∧ logins (eventsOf turns) = [] ∧ attempts (eventsOf turns) = [] := by
  induction h with
  | nil s =>
      refine ⟨s.connection.getD 0, by simp [eventsOf, used], .inl rfl, ?_⟩
      rintro held hheld
      exact ⟨by simp [hheld], rfl, rfl⟩
  | @cons a es r turns s s₁ s' hturn hrest ih =>
      obtain ⟨hfirst, hothers⟩ := List.forall_mem_cons.mp hundisturbed
      have hs₁ := hs.perform hturn
      simp only [eventsOf_cons, used_append, logins_append, attempts_append]
      rcases perform_cases hs hturn with
        ⟨hclosed, rfl, rfl⟩ | ⟨-, -, rfl, rfl⟩ | ⟨hopen, -, hcourse⟩
      · exact ih hs₁ hothers
      · obtain ⟨hused, hlogins, hattempts, -⟩ := quiet_leaveTaken s.connection
        rw [hrest.quiet hs₁ rfl, hused, hlogins, hattempts]
        refine ⟨s.connection.getD 0, by simp [used], .inl rfl, ?_⟩
        rintro held hheld
        exact ⟨by simp [hheld], rfl, rfl⟩
      · obtain ⟨connection, hused, hlogins, hheld⟩ := ih hs₁ hothers
        have htraffic := hcourse.traffic hopen hfirst
        generalize used es = usedHere, logins es = loginsHere, attempts es = attemptsHere
          at htraffic ⊢
        cases htraffic with
        | kept hconnection =>
            obtain ⟨rfl, hnologin, hnoattempt⟩ := hheld _ hconnection
            refine ⟨_, List.forall_mem_cons.mpr ⟨rfl, hused⟩, .inl hnologin, ?_⟩
            rintro held hsame
            exact ⟨Option.some.inj (hsame.symm.trans hconnection), hnologin, hnoattempt⟩
        | unmade hnone tried =>
            refine ⟨connection, hused, hlogins, ?_⟩
            rintro held hconnection
            rw [hnone] at hconnection
            cases hconnection
        | made hnone made tried =>
            obtain ⟨rfl, hnologin, -⟩ := hheld _ rfl
            refine ⟨_, List.forall_mem_cons.mpr ⟨rfl, hused⟩, .inr ?_, ?_⟩
            · rw [hnologin]
              rfl
            · rintro held hconnection
              rw [hnone] at hconnection
              cases hconnection

/-- A session keeps its host and its time limit, whatever it is asked. -/
lemma perform_target_eq {a : Action} {es : List TimedEvent} {r : Except TransportError a.Reply}
    (hs : s.Sound) (ht : Transcript (a.perform s) es (some (r, s'))) :
    s'.target = s.target ∧ s'.timeoutSecs = s.timeoutSecs := by
  rcases perform_cases hs ht with ⟨-, -, rfl⟩ | ⟨-, -, -, rfl⟩ | ⟨-, -, hcourse⟩
  · exact ⟨rfl, rfl⟩
  · exact ⟨rfl, rfl⟩
  · cases hcourse with
    | completed hrun =>
        obtain ⟨htarget, hlimit, -⟩ := Session.mk.inj hrun.minds.others
        exact ⟨htarget, hlimit⟩
    | failed => exact ⟨rfl, rfl⟩

lemma Proceeds.target_eq (h : Proceeds s turns s') (hs : s.Sound) :
    s'.target = s.target ∧ s'.timeoutSecs = s.timeoutSecs := by
  induction h with
  | nil s => exact ⟨rfl, rfl⟩
  | cons hturn hrest ih =>
      obtain ⟨htarget, hlimit⟩ := ih (hs.perform hturn)
      obtain ⟨htarget₁, hlimit₁⟩ := perform_target_eq hs hturn
      exact ⟨htarget.trans htarget₁, hlimit.trans hlimit₁⟩

/-- An open session is as it was opened, but for its connection. -/
lemma Proceeds.eq_of_open {opened : Session} (h : Proceeds opened turns s)
    (hopened : opened.closed = false ∧ opened.connection = none) (hopen : s.closed = false) :
    { s with connection := none } = opened := by
  have hs : opened.Sound := fun _ => hopened.2
  obtain ⟨htarget, hlimit⟩ := h.target_eq hs
  obtain ⟨target, timeoutSecs, connection, closed⟩ := s
  obtain rfl : closed = false := hopen
  obtain rfl : target = opened.target := htarget
  obtain rfl : timeoutSecs = opened.timeoutSecs := hlimit
  rw [← hopened.1, ← hopened.2]

lemma Proceeds.snoc {start : Session} {a : Action} {es : List TimedEvent}
    {r : Except TransportError a.Reply} (h : Proceeds start turns s)
    (hturn : Transcript (a.perform s) es (some (r, s'))) :
    Proceeds start (turns ++ [⟨a, es, r⟩]) s' := by
  induction h with
  | nil s => exact .cons hturn (.nil s')
  | cons hfirst hrest ih => exact .cons hfirst (ih hturn)

end Histories

/-! ## What holds at any point of a history -/

section Points

variable {s s' : Session} {es : List TimedEvent}

/-- Only what was heard tells of the connection. -/
lemma foldl_heldAfter_heard (held : Option ConnectionId) (es : List TimedEvent) :
    ((heard es).map patiently).foldl heldAfter held = es.foldl heldAfter held := by
  induction es generalizing held with
  | nil => rfl
  | cons x es ih =>
      cases hx : heard? x with
      | none =>
          have hheld : heldAfter held x = held := by simp [heldAfter, hx]
          rw [heard, List.filterMap_cons_none hx, ← heard, ih, List.foldl_cons, hheld]
      | some y =>
          have hheld : heldAfter held x = heldAfter held (patiently y) := by
            rw [heldAfter, hx]
            rfl
          rw [heard, List.filterMap_cons_some hx, ← heard, List.map_cons, List.foldl_cons, ih,
            List.foldl_cons, hheld]

/-- Every request fits the connection, and the session holds what its events have left. -/
lemma perform_fitting {a : Action} {r : Except TransportError a.Reply} (hs : s.Sound)
    (ht : Transcript (a.perform s) es (some (r, s'))) :
    Fitting s.connection es ∧ s'.connection = a.keeps r (es.foldl heldAfter s.connection) := by
  rcases perform_cases hs ht with ⟨hclosed, rfl, rfl⟩ | ⟨-, rfl, rfl, rfl⟩ | ⟨-, ha, hcourse⟩
  · refine ⟨trivial, ?_⟩
    rw [List.foldl_nil, hs hclosed]
    cases a <;> simp [Session.Action.keeps]
  · refine ⟨?_, rfl⟩
    cases s.connection with
    | none => trivial
    | some connection => exact ⟨rfl, trivial⟩
  · cases hcourse with
    | completed hrun hes hheard _ hping =>
        refine ⟨hes.fitting hrun.minds.fitting, ?_⟩
        rw [← foldl_heldAfter_heard, hheard, ← hrun.minds.held]
        cases a with
        | ping =>
            obtain ⟨b, rfl⟩ := hping rfl
            rfl
        | close => exact absurd rfl ha
        | _ => rfl
    | failed hping hrun hes =>
        obtain rfl := hping
        exact ⟨hes.fitting hrun.minds.fitting, rfl⟩

/-- A command that has a result has used the connection that the session now holds. -/
lemma RunsCommand.used_eq {α : Type} {a : α} {plain : List Event}
    (h : RunsCommand s plain (.ok a : Except TransportError α) s') :
    ∃ connection, s'.connection = some connection ∧ used (plain.map patiently) = [connection] := by
  cases h with
  | @connected front rest connection reply _ _ hsure hrest =>
      have hfront : used (front.map patiently) = [] := by
        cases hsure with
        | held => rfl
        | lost _ _ hlogin => cases hlogin; rfl
        | absent _ _ hlogin => cases hlogin; rfl
      refine ⟨connection, hsure.holds, ?_⟩
      rw [List.map_append, used_append, hfront, List.nil_append]
      exact congrArg (connection :: ·) (quiet_of_minor hrest).1

/-- A ping with an answer has been answered on a connection, and the session holds it. -/
lemma used_of_ping {b : Bool} (hs : s.Sound)
    (ht : Transcript (Action.ping.perform s) es (some (.ok b, s'))) :
    ∃ connection, s'.connection = some connection ∧ used es = [connection] := by
  rcases perform_cases hs ht with ⟨hclosed, -, -⟩ | ⟨-, ha, -, -⟩ | ⟨-, -, hcourse⟩
  · rw [perform_of_closed (by simp) hclosed (hs hclosed)] at ht
    cases (Dialogue.transcript_done_iff.mp ht).2
  · cases ha
  · cases hcourse with
    | completed hrun _ _ hcalls =>
        obtain ⟨connection, hheld, hused⟩ := hrun.used_eq
        refine ⟨connection, hheld, ?_⟩
        rw [← hused, used, hcalls, used]

/-- A failed connect or login is the end of the operation. -/
lemma perform_of_failsToConnect {a : Action} {r : Except TransportError a.Reply} (hs : s.Sound)
    (ht : Transcript (a.perform s) es (some (r, s'))) {x : Event} (hx : x ∈ heard es)
    (hfails : FailsToConnect x) :
    (∃ e, r = .error e) ∧ s'.connection = none ∧ s'.closed = false := by
  rcases perform_cases hs ht with ⟨-, rfl, -⟩ | ⟨-, -, rfl, -⟩ | ⟨hopen, -, hcourse⟩
  · cases hx
  · cases hheld : s.connection with
    | none =>
        rw [hheld] at hx
        cases hx
    | some connection =>
        rw [hheld] at hx
        obtain rfl := List.mem_singleton.mp hx
        exact hfails.elim
  · cases hcourse with
    | completed hrun hes => exact hrun.of_failsToConnect (hes.mem_of_mem_heard hx) hfails
    | failed => exact ⟨⟨_, rfl⟩, rfl, hopen⟩

/-- A failed ping gives up the connection of an open session. -/
lemma perform_ping_error {e : TransportError} (hs : s.Sound) (hopen : s.closed = false)
    (ht : Transcript (Action.ping.perform s) es (some (.error e, s'))) :
    s'.connection = none ∧ s'.closed = false := by
  rcases perform_cases hs ht with ⟨hclosed, -, -⟩ | ⟨-, ha, -, -⟩ | ⟨-, -, hcourse⟩
  · simp [hopen] at hclosed
  · cases ha
  · cases hcourse with
    | completed _ _ _ _ hping =>
        obtain ⟨_, hr⟩ := hping rfl
        cases hr
    | failed => exact ⟨rfl, hopen⟩

/-- Without a connection, an open session begins everything with an attempt to connect. -/
lemma perform_head {a : Action} {r : Except TransportError a.Reply} (ha : a ≠ .close)
    (hopen : s.closed = false) (hnone : s.connection = none)
    (ht : Transcript (a.perform s) es (some (r, s'))) :
    ∃ x rest, es = x :: rest ∧ callOf x = .connect s.target.host := by
  cases transcript_perform ha ht with
  | completed hrun hes =>
      obtain ⟨reply, rest, hwhole⟩ := hrun.head hopen hnone
      exact hes.head hwhole
  | failed _ hrun hes =>
      obtain ⟨reply, rest, hwhole⟩ := hrun.head hopen hnone
      exact hes.head hwhole

end Points

/-! ## Every operation comes to its end -/

section Ends

variable {α : Type} {s : Session} {es : List TimedEvent}

lemma exists_of_transcript_patient {d : Conversation α} {o : Option α}
    (hd : ∀ es o, Transcript d es o → ∃ a, o = some a) (ht : Transcript d.patient es o) :
    ∃ a, o = some a := by
  obtain ⟨plain, hplain, -⟩ := transcript_patient_iff.mp ht
  exact hd _ _ hplain

/-- Under a time limit there is a result, be it that the time was up. -/
lemma exists_of_transcript_limited {d : Conversation α} {o : Option (Option α)}
    (hd : ∀ es o, Transcript d es o → ∃ a, o = some a) (ht : Transcript d.limited es o) :
    ∃ a, o = some a := by
  induction d generalizing es with
  | done a => exact ⟨_, (Dialogue.transcript_done_iff.mp ht).2⟩
  | unfinished =>
      obtain ⟨_, hnone⟩ := hd _ _ .unfinished
      cases hnone
  | ask c next ih =>
      rw [Dialogue.limited] at ht
      obtain ⟨reply, rest, hrest, -⟩ := Dialogue.transcript_ask_iff.mp ht
      cases reply with
      | none => exact ⟨_, (Dialogue.transcript_done_iff.mp hrest).2⟩
      | some reply => exact ih reply (fun es o h => hd _ _ (.ask reply h)) hrest

/-- **Every operation ends with a result**, whatever the session and the replies. -/
lemma perform_finishes (a : Action) (o : Option (Except TransportError a.Reply × Session))
    (ht : Transcript (a.perform s) es o) : ∃ r s', o = some (r, s') := by
  have hpatient : ∀ {α : Type} {step : Step α} {o : Option (Except TransportError α × Session)},
      Finishes step → Transcript (Session.patiently step s) es o → ∃ r s', o = some (r, s') := by
    intro α step o hstep ht
    obtain ⟨⟨r, s'⟩, ho⟩ :=
      exists_of_transcript_patient (fun es o h => (by simpa using hstep _ es o h)) ht
    exact ⟨r, s', ho⟩
  cases a with
  | ping =>
      rcases Dialogue.transcript_bind_iff.mp ht with ⟨_, result, _, -, hend, -⟩ | ⟨hrun, -⟩
      · rcases result with _ | ⟨_ | _, _⟩ <;>
          exact ⟨_, _, (Dialogue.transcript_done_iff.mp hend).2⟩
      · obtain ⟨_, hnone⟩ := exists_of_transcript_limited
          (fun es o h => (by simpa using finishes_runCommand "exit 0" _ es o h)) hrun
        cases hnone
  | execute command limit => exact hpatient (finishes_startCommand command limit) ht
  | putFile path contents => exact hpatient (finishes_upload path contents) ht
  | fileExists path =>
      exact hpatient ((finishes_runCommand _).bind fun _ => finishes_pure _) ht
  | close =>
      cases hclosed : s.closed with
      | true =>
          rw [Action.perform, close_of_closed hclosed] at ht
          exact ⟨_, _, (Dialogue.transcript_done_iff.mp ht).2⟩
      | false =>
          obtain ⟨target, timeoutSecs, connection, closed⟩ := s
          obtain rfl : closed = false := hclosed
          cases connection with
          | none => exact ⟨_, _, (Dialogue.transcript_done_iff.mp ht).2⟩
          | some connection =>
              obtain ⟨_, _, hlast, -⟩ := Dialogue.transcript_ask_iff.mp ht
              exact ⟨_, _, (Dialogue.transcript_done_iff.mp hlast).2⟩

end Ends

/-! ## The discipline -/

/-- **What holds of a session at any point of any history**, whatever the server does. -/
structure MindsConnection (opened : Session) : Prop where
  /-- Every operation ends with a result. -/
  finishes {turns : List Turn} {s : Session} (_ : Proceeds opened turns s) (a : Action)
    {es : List TimedEvent} {o : Option (Except TransportError a.Reply × Session)}
    (_ : Transcript (a.perform s) es o) : ∃ r s', o = some (r, s')
  /-- A session is closed once it has been closed. -/
  closed_iff {turns : List Turn} {s : Session} (_ : Proceeds opened turns s) :
    s.closed = true ↔ ∃ t ∈ turns, t.action = .close
  /-- A closed session holds no connection. -/
  empty {turns : List Turn} {s : Session} (_ : Proceeds opened turns s) (_ : s.closed = true) :
    s.connection = none
  /-- A closed session refuses every operation, and asks nobody. -/
  refuses {turns : List Turn} {s : Session} (_ : Proceeds opened turns s) (_ : s.closed = true)
    {a : Action} (_ : a ≠ .close) : a.perform s = .done (.error .closed, s)
  /-- Whatever is asked of the server fits the connection that is held then: a new connection is
  tried only while none is held, and anything else goes to the one that is.  The events tell what
  is held in the end. -/
  fitting {turns : List Turn} {s s' : Session} (_ : Proceeds opened turns s) {a : Action}
    {es : List TimedEvent} {r : Except TransportError a.Reply}
    (_ : Transcript (a.perform s) es (some (r, s'))) :
    Fitting s.connection es ∧ s'.connection = a.keeps r (es.foldl heldAfter s.connection)
  /-- As long as no connection is lost and no ping fails, there is only one: all commands run on it,
  at most one login makes it, and none if it was held at first. -/
  shares {before turns : List Turn} {s s' : Session} (_ : Proceeds opened before s)
    (_ : Proceeds s turns s') (_ : ∀ t ∈ turns, t.Undisturbed) :
    ∃ connection, (∀ c ∈ used (eventsOf turns), c = connection)
      ∧ (logins (eventsOf turns) = [] ∨ logins (eventsOf turns) = [connection])
      ∧ ∀ held, s.connection = some held → held = connection
          ∧ logins (eventsOf turns) = [] ∧ attempts (eventsOf turns) = []
  /-- If a connection cannot be made, or its login is not accepted, then the operation fails and
  the session is as it was when it was opened. -/
  failedConnect {turns : List Turn} {s s' : Session} (_ : Proceeds opened turns s) {a : Action}
    {es : List TimedEvent} {r : Except TransportError a.Reply}
    (_ : Transcript (a.perform s) es (some (r, s'))) {x : Event} (_ : x ∈ heard es)
    (_ : FailsToConnect x) : (∃ e, r = .error e) ∧ s' = opened
  /-- So it is after a failed ping, unless it was closed. -/
  failedPing {turns : List Turn} {s s' : Session} (_ : Proceeds opened turns s)
    (_ : s.closed = false) {es : List TimedEvent} {e : TransportError}
    (_ : Transcript (Action.ping.perform s) es (some (.error e, s'))) : s' = opened
  /-- A session that has just been opened begins every operation with a new connection. -/
  startsAfresh {a : Action} (_ : a ≠ .close) {s' : Session} {es : List TimedEvent}
    {r : Except TransportError a.Reply} (_ : Transcript (a.perform opened) es (some (r, s'))) :
    ∃ x rest, es = x :: rest ∧ callOf x = .connect opened.target.host
  /-- A ping that was answered, be it with no, keeps the connection on which it was. -/
  answeredPing {turns : List Turn} {s s' : Session} (_ : Proceeds opened turns s)
    {es : List TimedEvent} {b : Bool}
    (_ : Transcript (Action.ping.perform s) es (some (.ok b, s'))) :
    ∃ connection, s'.connection = some connection ∧ used es = [connection]
  /-- The first close takes leave of the connection that is held, if one is. -/
  firstClose {turns : List Turn} {s s' : Session} (_ : Proceeds opened turns s)
    (_ : s.closed = false) {es : List TimedEvent} {r : Except TransportError Unit}
    (_ : Transcript (Action.close.perform s) es (some (r, s'))) :
    es = leaveTaken s.connection ∧ r = .ok () ∧ s' = { opened with closed := true }
  /-- Any other close does nothing. -/
  laterClose {turns : List Turn} {s : Session} (_ : Proceeds opened turns s)
    (_ : s.closed = true) : Action.close.perform s = .done (.ok (), s)
  /-- Nothing but closing takes leave. -/
  leavesInClose {turns : List Turn} {s s' : Session} (_ : Proceeds opened turns s) {a : Action}
    (_ : a ≠ .close) {es : List TimedEvent} {r : Except TransportError a.Reply}
    (_ : Transcript (a.perform s) es (some (r, s'))) : leaves es = []
  /-- Leave is taken once at most. -/
  leavesOnce {turns : List Turn} {s : Session} (_ : Proceeds opened turns s) :
    (leaves (eventsOf turns)).length ≤ 1

/-- **A session minds its connection.** -/
theorem sessions_mindConnection (target : SessionTarget) (timeoutSecs : Nat) :
    MindsConnection { target, timeoutSecs } := by
  generalize hopened : ({ target, timeoutSecs } : Session) = opened
  have hnew : opened.closed = false ∧ opened.connection = none := hopened ▸ ⟨rfl, rfl⟩
  have hs : opened.Sound := fun _ => hnew.2
  have hasNew : ∀ {turns s}, Proceeds opened turns s → s.connection = none ∧ s.closed = false →
      s = opened := by
    rintro turns s hpast ⟨hnone, hopen⟩
    rw [← hpast.eq_of_open hnew hopen, ← hnone]
  exact {
    finishes := fun _ a _ o ht => perform_finishes a o ht
    closed_iff := fun hpast => by rw [hpast.closed_iff hs, hnew.1]; simp
    empty := fun hpast hclosed => hpast.sound hs hclosed
    refuses := fun hpast hclosed _ ha => perform_of_closed ha hclosed (hpast.sound hs hclosed)
    fitting := fun hpast _ _ _ ht => perform_fitting (hpast.sound hs) ht
    shares := fun hpast hturns hundisturbed => hturns.shares (hpast.sound hs) hundisturbed
    failedConnect := fun hpast _ _ _ ht _ hx hfails => by
      obtain ⟨he, hended⟩ := perform_of_failsToConnect (hpast.sound hs) ht hx hfails
      exact ⟨he, hasNew (hpast.snoc ht) hended⟩
    failedPing := fun hpast hopen _ _ ht =>
      hasNew (hpast.snoc ht) (perform_ping_error (hpast.sound hs) hopen ht)
    startsAfresh := fun ha _ _ _ ht => perform_head ha hnew.1 hnew.2 ht
    answeredPing := fun hpast _ _ ht => used_of_ping (hpast.sound hs) ht
    firstClose := fun hpast hopen _ _ ht => by
      obtain ⟨hes, hr, rfl⟩ := transcript_close hopen ht
      rw [← hpast.eq_of_open hnew hopen]
      exact ⟨hes, hr, rfl⟩
    laterClose := fun _ hclosed => close_of_closed hclosed
    leavesInClose := fun _ _ ha _ _ ht => (transcript_perform ha ht).leaves_eq
    leavesOnce := fun hpast => hpast.length_leaves_le hs }

/-- A host, and who logs in there. -/
def quayside : SessionTarget where
  host := "quayside"
  username := "harbour"
  password := ⟨"x"⟩
  useHttps := false

/-- A login that is accepted. -/
def admission (connection : ConnectionId) : List Event :=
  [asked (.connect "quayside") (.ok connection),
    asked (.authenticate connection "harbour" ⟨"x"⟩) (.ok true)]

/-- A history with a refused connection, one that has ended before a ping, one that this ping gives
up, and one that is held in the end. -/
def lossyHistory : List Turn :=
  [⟨.execute "run" none,
      [patiently (asked (.connect "quayside") (.error (.failed "refused")))],
      .error (.connect "refused")⟩,
    ⟨.execute "run" none,
      (admission 1 ++ [asked (.openChannel 1) (.ok 4), asked (.start 4 "run" none) (.ok ())]).map
        patiently,
      .ok { channel := 4 }⟩,
    ⟨.ping,
      (asked (.isClosed 1) true :: admission 2).map promptly ++ [cutOff (.openChannel 2)],
      .error (noAnswer { target := quayside })⟩,
    ⟨.execute "run" none,
      (admission 3 ++ [asked (.openChannel 3) (.error "busy")]).map patiently,
      .error (.command ("failed to open channel: " ++ "busy"))⟩,
    ⟨.close, [patiently (asked (.disconnect 3) ())], .ok ()⟩,
    ⟨.fileExists "run", [], .error .closed⟩]

/-- In this history three connections are made, and leave is taken of the last one. -/
theorem sessions_mindConnection_lossy :
    let closed : Session := { target := quayside, closed := true }
    Proceeds { target := quayside } lossyHistory closed
      ∧ logins (eventsOf lossyHistory) = [1, 2, 3] ∧ leaves (eventsOf lossyHistory) = [3]
      ∧ ∀ a : Action, a ≠ .close → a.perform closed = .done (.error .closed, closed) := by
  intro closed
  have hping : Transcript (Action.ping.perform { target := quayside, connection := some 1 })
      ((asked (.isClosed 1) true :: admission 2).map promptly ++ [cutOff (.openChannel 2)])
      (some (.error (noAnswer { target := quayside }), { target := quayside })) := by
    have hplain : Transcript
        (((Session.runCommand "exit 0").run).run { target := quayside, connection := some 1 })
        ((asked (.isClosed 1) true :: admission 2) ++ asked (.openChannel 2) (.error "") :: [])
        (some (.error (.command ("failed to open channel: " ++ "")),
          { target := quayside, connection := some 2 })) :=
      .ask _ (.ask _ (.ask _ (.ask _ (.done _))))
    exact Dialogue.transcript_bind_iff.mpr
      (.inl ⟨_, none, [], transcript_limited_cutOff hplain, .done _, by simp⟩)
  have hhistory : Proceeds { target := quayside } lossyHistory closed :=
    .cons (.ask _ (.done _)) <| .cons (.ask _ (.ask _ (.ask _ (.ask _ (.done _))))) <|
      .cons hping <| .cons (.ask _ (.ask _ (.ask _ (.done _)))) <| .cons (.ask _ (.done _)) <|
      .cons (.done _) <| .nil _
  exact ⟨hhistory, by decide, by decide, fun _ ha =>
    (sessions_mindConnection quayside 30).refuses hhistory rfl ha⟩

end AgentLaunch.Ssh
