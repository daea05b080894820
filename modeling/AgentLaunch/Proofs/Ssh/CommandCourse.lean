import AgentLaunch.Proofs.Ssh.Commands

/-!
# The course of a command

Every operation that runs a command begins in one way: it makes sure of a connection, which may
take a new login, and asks for a channel on it.  Whatever comes after that is about the channel
alone and leaves the session as it is.

* `LogsIn`, `MakesSure` — how a connection is made, and how one is found.
* **`RunsCommand`** — what all operations that run a command have in common, and that each of them
  does so: `takes_startCommand_course`, `takes_runCommand_course`, `takes_upload_course`.
* `Finishes` — a step that comes to its end whatever is replied.
* `transcript_limited_iff` — an operation under a time limit, which may be cut off in any request.

A time limit changes an operation in one way only: each of its requests may be the last one, without
a reply.  `transcript_limited_iff` says so for any conversation, by induction on it, and makes a
statement about a limited operation one about the same operation without the limit, cut off at some
point.  That there is something to cut off needs a reply to every request (`exists_reply`).

That operations end is shown here as well, for all replies.  Nothing is repeated but the sending of
lines, once for each of them, so `Finishes` goes through the steps in the way in which they are put
together, and no measure is needed.
-/

namespace AgentLaunch.Ssh

open Dialogue (Transcript)

/-! ## Finding a connection -/

/-- The error of a connection that could not be made. -/
def connectError (target : SessionTarget) : Failure → TransportError
  | .timedOut => .timeout ("connecting to " ++ target.host)
  | .failed text => .connect text

/-- The error of a login that has got no answer. -/
def loginError (target : SessionTarget) : Failure → TransportError
  | .timedOut => .timeout ("authenticating to " ++ target.host)
  | .failed text => .auth text

/-- The ways of making a connection, and what each leaves. -/
inductive LogsIn (s : Session) :
    List Event → Except TransportError ConnectionId → Session → Prop where
  | unreached (f : Failure) :
      LogsIn s [asked (.connect s.target.host) (.error f)] (.error (connectError s.target f)) s
  | unanswered (connection : ConnectionId) (f : Failure) :
      LogsIn s
        [asked (.connect s.target.host) (.ok connection),
          asked (.authenticate connection s.target.username s.target.password) (.error f)]
        (.error (loginError s.target f)) s
  | rejected (connection : ConnectionId) :
      LogsIn s
        [asked (.connect s.target.host) (.ok connection),
          asked (.authenticate connection s.target.username s.target.password) (.ok false)]
        (.error (.auth ("password rejected for " ++ s.target.username))) s
  | accepted (connection : ConnectionId) :
      LogsIn s
        [asked (.connect s.target.host) (.ok connection),
          asked (.authenticate connection s.target.username s.target.password) (.ok true)]
        (.ok connection) { s with connection := some connection }

/-- The ways of making sure of a connection, and what each leaves. -/
inductive MakesSure (s : Session) :
    List Event → Except TransportError ConnectionId → Session → Prop where
  | closed (hclosed : s.closed = true) : MakesSure s [] (.error .closed) s
  | held (hopen : s.closed = false) {connection : ConnectionId}
      (hheld : s.connection = some connection) :
      MakesSure s [asked (.isClosed connection) false] (.ok connection) s
  | lost (hopen : s.closed = false) {connection : ConnectionId}
      (hheld : s.connection = some connection) {es : List Event}
      {r : Except TransportError ConnectionId} {s' : Session}
      (hlogin : LogsIn { s with connection := none } es r s') :
      MakesSure s (asked (.isClosed connection) true :: es) r s'
  | absent (hopen : s.closed = false) (hnone : s.connection = none) {es : List Event}
      {r : Except TransportError ConnectionId} {s' : Session} (hlogin : LogsIn s es r s') :
      MakesSure s es r s'

section Finding

variable {s s' : Session} {es : List Event} {r : Except TransportError ConnectionId}

lemma takes_connect (h : Takes Session.connect s es r s') : LogsIn s es r s' := by
  obtain ⟨f | connection, _, hrest, rfl⟩ := takes_ask_bind_iff.mp (takes_get_bind_iff.mp h)
  · cases f with
    | timedOut =>
        obtain ⟨rfl, rfl, rfl⟩ := takes_throw_iff.mp hrest
        exact .unreached .timedOut
    | failed text =>
        obtain ⟨rfl, rfl, rfl⟩ := takes_throw_iff.mp hrest
        exact .unreached (.failed text)
  · obtain ⟨(_ | _) | _ | _, _, hlast, rfl⟩ := takes_ask_bind_iff.mp hrest
    · obtain ⟨rfl, rfl, rfl⟩ := takes_throw_iff.mp hlast
      exact .unanswered connection .timedOut
    · obtain ⟨rfl, rfl, rfl⟩ := takes_throw_iff.mp hlast
      exact .unanswered connection (.failed _)
    · obtain ⟨rfl, rfl, rfl⟩ := takes_throw_iff.mp hlast
      exact .rejected connection
    · have hkept : Takes (pure connection) { s with connection := some connection } _ r s' := hlast
      obtain ⟨rfl, rfl, rfl⟩ := takes_pure_iff.mp hkept
      exact .accepted connection

lemma takes_liveConnection (h : Takes Session.liveConnection s es r s') : MakesSure s es r s' := by
  replace h := takes_get_bind_iff.mp h
  cases hclosed : s.closed with
  | true =>
      simp only [hclosed, if_true] at h
      rcases takes_bind_iff.mp h with ⟨_, _, _, _, hthrow, -, -⟩ | ⟨_, hthrow, rfl⟩
      · obtain ⟨-, hr, -⟩ := takes_throw_iff.mp hthrow
        cases hr
      · obtain ⟨rfl, hr, rfl⟩ := takes_throw_iff.mp hthrow
        obtain rfl := Except.error.inj hr
        exact .closed hclosed
  | false =>
      simp only [hclosed, Bool.false_eq_true, if_false] at h
      cases hheld : s.connection with
      | none =>
          simp only [hheld] at h
          exact .absent hclosed hheld (takes_connect h)
      | some connection =>
          simp only [hheld] at h
          obtain ⟨gone, _, hrest, rfl⟩ := takes_ask_bind_iff.mp h
          cases gone with
          | true => exact .lost hclosed hheld (takes_connect (takes_modify_bind_iff.mp hrest))
          | false =>
              obtain ⟨rfl, rfl, rfl⟩ := takes_pure_iff.mp hrest
              exact .held hclosed hheld

end Finding

/-! ## Running a command -/

/-- A request that is about a channel alone, and says nothing about its connection. -/
def Call.minor : Call → Bool
  | connect _ => false
  | authenticate _ _ _ => false
  | isClosed _ => false
  | openChannel _ => false
  | disconnect _ => false
  | _ => true

/-- **How a command is run**: there is no connection for it, or a channel is asked for on one, and
all that follows is about that channel. -/
inductive RunsCommand {α : Type} (s : Session) :
    List Event → Except TransportError α → Session → Prop where
  | unconnected {es : List Event} {e : TransportError} {s' : Session}
      (hsure : MakesSure s es (.error e) s') : RunsCommand s es (.error e) s'
  | connected {es rest : List Event} {connection : ConnectionId} {reply : Except String ChannelId}
      {r : Except TransportError α} {s' : Session} (hsure : MakesSure s es (.ok connection) s')
      (hrest : ∀ x ∈ rest, x.request.minor = true) :
      RunsCommand s (es ++ asked (.openChannel connection) reply :: rest) r s'

section Running

variable {α β : Type} {s s' : Session} {es : List Event}

lemma RunsCommand.of_error {e : TransportError} (h : RunsCommand (α := α) s es (.error e) s') :
    RunsCommand (α := β) s es (.error e) s' := by
  cases h with
  | unconnected hsure => exact .unconnected hsure
  | connected hsure hrest => exact .connected hsure hrest

/-- What is made of a command that runs is about its channel. -/
lemma RunsCommand.append {a : α} {rest : List Event} {r : Except TransportError β}
    (h : RunsCommand s es (.ok a) s') (hrest : ∀ x ∈ rest, x.request.minor = true) :
    RunsCommand s (es ++ rest) r s' := by
  cases h with
  | connected hsure hmore =>
      rw [List.append_assoc, List.cons_append]
      exact .connected hsure (List.forall_mem_append.mpr ⟨hmore, hrest⟩)

lemma RunsCommand.map {r : Except TransportError α} (h : RunsCommand s es r s') (f : α → β) :
    RunsCommand s es (r.map f) s' := by
  cases h with
  | unconnected hsure => exact .unconnected hsure
  | connected hsure hrest => exact .connected hsure hrest

lemma takes_startCommand_course {command : String} {limit : Option Nat}
    {r : Except TransportError Process} (h : Takes (Session.startCommand command limit) s es r s') :
    RunsCommand s es r s' := by
  rcases takes_bind_iff.mp h with ⟨front, connection, s₁, _, hsure, hopen, rfl⟩ | ⟨e, hsure, rfl⟩
  · replace hsure := takes_liveConnection hsure
    obtain ⟨text | channel, _, hstart, rfl⟩ := takes_ask_bind_iff.mp hopen
    · obtain ⟨rfl, rfl, rfl⟩ := takes_throw_iff.mp hstart
      exact .connected hsure (by simp)
    · obtain ⟨(_ | _) | _, _, hlast, rfl⟩ := takes_ask_bind_iff.mp hstart
      · obtain ⟨rfl, rfl, rfl⟩ := takes_throw_iff.mp hlast
        exact .connected hsure (by simp [Call.minor])
      · obtain ⟨rfl, rfl, rfl⟩ := takes_throw_iff.mp hlast
        exact .connected hsure (by simp [Call.minor])
      · obtain ⟨rfl, rfl, rfl⟩ := takes_pure_iff.mp hlast
        exact .connected hsure (by simp [Call.minor])
  · exact .unconnected (takes_liveConnection hsure)

lemma minor_drops (p : Process) : ∀ x ∈ p.drops, x.request.minor = true := by
  obtain ⟨channel, _ | _, _ | _, awaitable, exitCode⟩ := p <;> simp [Process.drops, Call.minor]

lemma takes_runCommand_course {command : String} {r : Except TransportError Nat}
    (h : Takes (Session.runCommand command) s es r s') : RunsCommand s es r s' := by
  rcases takes_bind_iff.mp h with ⟨_, p, _, _, hstart, hfinish, rfl⟩ | ⟨e, hstart, rfl⟩
  · obtain ⟨channel, rfl⟩ := (Session.takes_startCommand hstart).2 p rfl
    obtain ⟨status, rfl, rfl, rfl⟩ := (Session.takes_finish_iff rfl rfl).mp hfinish
    refine (takes_startCommand_course hstart).append (List.forall_mem_append.mpr ⟨?_, ?_⟩)
    · exact minor_drops _
    · simp [Call.minor]
  · exact (takes_startCommand_course hstart).of_error

lemma takes_sendLines_minor {channel : ChannelId} {lines : List Bytes}
    {r : Except TransportError (Except String Unit)}
    (h : Takes (Session.sendLines channel lines) s es r s') :
    (∀ x ∈ es, x.request.minor = true) ∧ s' = s := by
  induction lines generalizing es with
  | nil =>
      obtain ⟨_, rfl, -, rfl⟩ := takes_ask_iff.mp h
      exact ⟨by simp [Call.minor], rfl⟩
  | cons line lines ih =>
      obtain ⟨_ | _, rest, hrest, rfl⟩ := takes_ask_bind_iff.mp h
      · obtain ⟨rfl, -, rfl⟩ := takes_pure_iff.mp hrest
        exact ⟨by simp [Call.minor], rfl⟩
      · obtain ⟨hminor, rfl⟩ := ih hrest
        exact ⟨List.forall_mem_cons.mpr ⟨rfl, hminor⟩, rfl⟩

lemma takes_upload_course {path : String} {contents : Bytes} {r : Except TransportError Unit}
    (h : Takes (Session.upload path contents) s es r s') : RunsCommand s es r s' := by
  rcases Session.takes_upload_cases h with
    ⟨e, hstart, rfl⟩ | ⟨channel, _, _, _, _, _, hstart, hlines, rfl, hlast⟩
  · exact (takes_startCommand_course hstart).of_error
  · obtain ⟨hminor, rfl⟩ := takes_sendLines_minor hlines
    refine (takes_startCommand_course hstart).append (List.forall_mem_append.mpr ⟨hminor, ?_⟩)
    rcases hlast with ⟨_, -, rfl, -⟩ | ⟨-, _, rfl, -⟩
    · simp [Call.minor]
    · simp [Call.minor]

end Running

/-! ## Steps that come to their end -/

/-- A step has a result, whatever the session and the replies. -/
def Finishes {α : Type} (step : Step α) : Prop :=
  ∀ s es o, Transcript ((step.run).run s) es o → ∃ r s', o = some (r, s')

section Finishing

variable {α β : Type}

lemma finishes_pure (a : α) : Finishes (pure a) := by
  intro s es o h
  exact ⟨_, _, (Dialogue.transcript_done_iff.mp h).2⟩

lemma finishes_throw (e : TransportError) : Finishes (throw e : Step α) := by
  intro s es o h
  exact ⟨_, _, (Dialogue.transcript_done_iff.mp h).2⟩

lemma Finishes.bind {step : Step α} {f : α → Step β} (h : Finishes step)
    (hf : ∀ a, Finishes (f a)) : Finishes (step >>= f) := by
  intro s es o ht
  rcases Dialogue.transcript_bind_iff.mp ht with ⟨_, ⟨e | a, s₁⟩, _, -, hrest, -⟩ | ⟨hfirst, -⟩
  · exact ⟨_, _, (Dialogue.transcript_done_iff.mp hrest).2⟩
  · exact hf a _ _ _ hrest
  · obtain ⟨_, _, hnone⟩ := h _ _ _ hfirst
    cases hnone

/-- What comes after a failure is not reached. -/
lemma finishes_throw_bind {f : α → Step β} (e : TransportError) :
    Finishes ((throw e : Step α) >>= f) := by
  intro s es o h
  exact ⟨_, _, (Dialogue.transcript_done_iff.mp h).2⟩

lemma finishes_ask_bind {c : Call} {f : c.Reply → Step β} (hf : ∀ reply, Finishes (f reply)) :
    Finishes (Session.ask c >>= f) := by
  intro s es o ht
  obtain ⟨reply, rest, hrest, -⟩ := Dialogue.transcript_ask_iff.mp ht
  exact hf reply _ _ _ hrest

lemma finishes_get_bind {f : Session → Step β} (hf : ∀ s, Finishes (f s)) : Finishes (get >>= f) :=
  fun s _ _ ht => hf s _ _ _ ht

lemma finishes_modify_bind {g : Session → Session} {f : Unit → Step β} (hf : Finishes (f ())) :
    Finishes (modify g >>= f) :=
  fun _ _ _ ht => hf _ _ _ ht

/-- A conversation that has a result. -/
lemma finishes_lift {d : Conversation α} (hd : ∀ es o, Transcript d es o → ∃ a, o = some a) :
    Finishes (ExceptT.lift (StateT.lift d)) := by
  intro s es o ht
  rcases Dialogue.transcript_bind_iff.mp ht with ⟨_, _, _, -, hlast, -⟩ | ⟨hpair, -⟩
  · exact ⟨_, _, (Dialogue.transcript_done_iff.mp hlast).2⟩
  · rcases Dialogue.transcript_bind_iff.mp hpair with ⟨_, _, _, -, hlast, -⟩ | ⟨hnone, -⟩
    · cases (Dialogue.transcript_done_iff.mp hlast).2
    · obtain ⟨_, hsome⟩ := hd _ _ hnone
      cases hsome

lemma finishes_connect : Finishes Session.connect := by
  refine finishes_get_bind fun s => finishes_ask_bind fun reply => ?_
  rcases reply with (_ | _) | connection
  · exact finishes_throw _
  · exact finishes_throw _
  · refine finishes_ask_bind fun reply => ?_
    rcases reply with (_ | _) | _ | _
    · exact finishes_throw _
    · exact finishes_throw _
    · exact finishes_throw _
    · exact finishes_modify_bind (finishes_pure _)

lemma finishes_liveConnection : Finishes Session.liveConnection := by
  refine finishes_get_bind fun s => ?_
  cases s.closed with
  | true => exact finishes_throw_bind _
  | false =>
      cases s.connection with
      | none => exact finishes_connect
      | some connection =>
          refine finishes_ask_bind fun gone => ?_
          cases gone with
          | true => exact finishes_modify_bind finishes_connect
          | false => exact finishes_pure _

lemma finishes_startCommand (command : String) (limit : Option Nat) :
    Finishes (Session.startCommand command limit) := by
  refine finishes_liveConnection.bind fun connection => finishes_ask_bind fun reply => ?_
  rcases reply with _ | channel
  · exact finishes_throw _
  · refine finishes_ask_bind fun reply => ?_
    rcases reply with (_ | _) | _
    · exact finishes_throw _
    · exact finishes_throw _
    · exact finishes_pure _

/-- Whoever waits for a process learns something. -/
lemma exists_of_transcript_wait {p : Process} {es : List Event}
    {o : Option (Except TransportError Nat × Process)} (ht : Transcript p.wait es o) :
    ∃ a, o = some a := by
  cases hcode : p.exitCode with
  | some code =>
      rw [wait_of_known hcode] at ht
      exact ⟨_, (Dialogue.transcript_done_iff.mp ht).2⟩
  | none =>
      cases hawaitable : p.awaitable with
      | true =>
          obtain ⟨_, -, ho⟩ := (transcript_wait_iff hcode hawaitable).mp ht
          exact ⟨_, ho⟩
      | false => exact ⟨_, (transcript_wait_again hcode hawaitable ht).2⟩

lemma finishes_finish (p : Process) : Finishes (Session.finish p) := by
  refine (finishes_lift fun _ _ => exists_of_transcript_wait).bind fun waited =>
    finishes_ask_bind fun _ => ?_
  cases waited.1 with
  | ok code => exact finishes_pure code
  | error e => exact finishes_throw e

lemma finishes_runCommand (command : String) : Finishes (Session.runCommand command) :=
  (finishes_startCommand command none).bind finishes_finish

lemma finishes_sendLines (channel : ChannelId) (lines : List Bytes) :
    Finishes (Session.sendLines channel lines) := by
  induction lines with
  | nil => exact finishes_ask_bind finishes_pure
  | cons line lines ih =>
      refine finishes_ask_bind fun reply => ?_
      cases reply with
      | ok => exact ih
      | error text => exact finishes_pure _

lemma finishes_upload (path : String) (contents : Bytes) :
    Finishes (Session.upload path contents) := by
  rw [Session.upload_eq]
  refine (finishes_startCommand _ _).bind fun p => (finishes_sendLines _ _).bind fun sent => ?_
  cases sent with
  | error text => exact finishes_ask_bind fun _ => finishes_throw _
  | ok =>
      refine (finishes_finish _).bind fun code => ?_
      cases code with
      | zero => exact finishes_pure ()
      | succ code => exact finishes_throw _

end Finishing

/-! ## Under a time limit -/

/-- The event of a request that was answered before the time was up. -/
def promptly (x : Event) : TimedEvent := ⟨.limited x.request, some x.reply⟩

/-- The event of a request at which the time was up. -/
def cutOff (c : Call) : TimedEvent := ⟨.limited c, none⟩

lemma exists_reply (c : Call) : Nonempty c.Reply := by
  cases c <;> infer_instance

section Limited

variable {α : Type}

/-- There is a transcript for some replies. -/
lemma exists_transcript (d : Conversation α) : ∃ es o, Transcript d es o := by
  induction d with
  | done a => exact ⟨_, _, .done a⟩
  | unfinished => exact ⟨_, _, .unfinished⟩
  | ask c next ih =>
      obtain ⟨reply⟩ := exists_reply c
      obtain ⟨es, o, h⟩ := ih reply
      exact ⟨_, _, .ask reply h⟩

/-- A conversation that comes to its end before the time is up. -/
lemma transcript_limited_promptly {d : Conversation α} {a : α} {plain : List Event}
    (ht : Transcript d plain (some a)) :
    Transcript d.limited (plain.map promptly) (some (some a)) := by
  induction d generalizing plain with
  | done b =>
      obtain ⟨rfl, hb⟩ := Dialogue.transcript_done_iff.mp ht
      exact hb ▸ .done (some b)
  | unfinished =>
      obtain ⟨-, hnone⟩ := Dialogue.transcript_unfinished_iff.mp ht
      cases hnone
  | ask c next ih =>
      obtain ⟨reply, plain, hrest, rfl⟩ := Dialogue.transcript_ask_iff.mp ht
      rw [Dialogue.limited]
      exact .ask _ (ih reply hrest)

/-- A conversation that is cut off in one of its requests. -/
lemma transcript_limited_cutOff {d : Conversation α} {plain rest : List Event} {c : Call}
    {reply : c.Reply} {o : Option α} (ht : Transcript d (plain ++ asked c reply :: rest) o) :
    Transcript d.limited (plain.map promptly ++ [cutOff c]) (some none) := by
  induction d generalizing plain with
  | done b => exact absurd (Dialogue.transcript_done_iff.mp ht).1 (by simp)
  | unfinished => exact absurd (Dialogue.transcript_unfinished_iff.mp ht).1 (by simp)
  | ask c' next ih =>
      obtain ⟨reply', tail, hrest, heq⟩ := Dialogue.transcript_ask_iff.mp ht
      rw [Dialogue.limited]
      cases plain with
      | nil =>
          obtain ⟨hevent, -⟩ := List.cons.inj heq
          obtain ⟨rfl, -⟩ := Dialogue.Event.mk.inj hevent
          exact .ask _ (.done none)
      | cons x plain =>
          obtain ⟨rfl, rfl⟩ := List.cons.inj heq
          exact .ask _ (ih reply' hrest)

/-- **A conversation under a time limit** comes to its end, or is cut off in a request that it would
have made anyway. -/
lemma transcript_limited_iff {d : Conversation α} {es : List TimedEvent} {o : Option α} :
    Transcript d.limited es (some o)
      ↔ (∃ a plain, Transcript d plain (some a) ∧ es = plain.map promptly ∧ o = some a)
        ∨ ∃ plain c reply rest end?, Transcript d (plain ++ asked c reply :: rest) end?
            ∧ es = plain.map promptly ++ [cutOff c] ∧ o = none := by
  constructor
  · intro ht
    induction d generalizing es with
    | done a =>
        obtain ⟨rfl, ho⟩ := Dialogue.transcript_done_iff.mp ht
        exact .inl ⟨a, [], .done a, rfl, Option.some.inj ho⟩
    | unfinished =>
        obtain ⟨-, ho⟩ := Dialogue.transcript_unfinished_iff.mp ht
        cases ho
    | ask c next ih =>
        rw [Dialogue.limited] at ht
        obtain ⟨reply, rest, hrest, rfl⟩ := Dialogue.transcript_ask_iff.mp ht
        cases reply with
        | none =>
            obtain ⟨rfl, ho⟩ := Dialogue.transcript_done_iff.mp hrest
            obtain ⟨reply⟩ := exists_reply c
            obtain ⟨more, end?, hmore⟩ := exists_transcript (next reply)
            exact .inr ⟨[], c, reply, more, end?,
              Dialogue.transcript_ask_iff.mpr ⟨reply, more, hmore, rfl⟩, rfl, Option.some.inj ho⟩
        | some reply =>
            rcases ih reply hrest with
              ⟨a, plain, hplain, rfl, ho⟩ | ⟨plain, c', reply', more, end?, hplain, rfl, ho⟩
            · exact .inl ⟨a, asked c reply :: plain, .ask reply hplain, rfl, ho⟩
            · exact .inr ⟨asked c reply :: plain, c', reply', more, end?, .ask reply hplain, rfl,
                ho⟩
  · rintro (⟨a, plain, ht, rfl, rfl⟩ | ⟨plain, c, reply, rest, end?, ht, rfl, rfl⟩)
    · exact transcript_limited_promptly ht
    · exact transcript_limited_cutOff ht

end Limited

/-! ## Pings -/

/-- What a ping says when the time was up. -/
def noAnswer (s : Session) : TransportError :=
  .timeout ("no answer from " ++ s.target.host ++ " within " ++ toString s.timeoutSecs ++ "s")

/-- **How a ping goes**: its command comes to an end, or is cut off.  A failed ping gives up the
connection. -/
lemma transcript_ping_cases {s s' : Session} {es : List TimedEvent}
    {r : Except TransportError Bool} (ht : Transcript (Session.ping s) es (some (r, s'))) :
    (∃ plain code, RunsCommand s plain (.ok code : Except TransportError Nat) s'
        ∧ es = plain.map promptly ∧ r = .ok (code == 0))
      ∨ (∃ plain e s₁, RunsCommand s plain (.error e : Except TransportError Nat) s₁
        ∧ es = plain.map promptly ∧ r = .error e ∧ s' = { s₁ with connection := none })
      ∨ ∃ plain c reply rest result s₁,
          RunsCommand (α := Nat) s (plain ++ asked c reply :: rest) result s₁
          ∧ es = plain.map promptly ++ [cutOff c] ∧ r = .error (noAnswer s)
          ∧ s' = { s with connection := none } := by
  unfold Session.ping at ht
  rcases Dialogue.transcript_bind_iff.mp ht with ⟨_, result, _, hrun, hend, rfl⟩ | ⟨-, hnone⟩
  · rcases transcript_limited_iff.mp hrun with
      ⟨⟨r₁, s₁⟩, plain, hplain, rfl, rfl⟩ | ⟨plain, c, reply, rest, end?, hplain, rfl, rfl⟩
    · replace hplain := takes_runCommand_course hplain
      cases r₁ with
      | ok code =>
          obtain ⟨rfl, hr⟩ := Dialogue.transcript_done_iff.mp hend
          obtain ⟨rfl, rfl⟩ := Prod.mk.inj (Option.some.inj hr)
          exact .inl ⟨plain, code, hplain, by simp, rfl⟩
      | error e =>
          obtain ⟨rfl, hr⟩ := Dialogue.transcript_done_iff.mp hend
          obtain ⟨rfl, rfl⟩ := Prod.mk.inj (Option.some.inj hr)
          exact .inr (.inl ⟨plain, e, s₁, hplain, by simp, rfl, rfl⟩)
    · obtain ⟨result, s₁, rfl⟩ := finishes_runCommand _ _ _ _ hplain
      obtain ⟨rfl, hr⟩ := Dialogue.transcript_done_iff.mp hend
      obtain ⟨rfl, rfl⟩ := Prod.mk.inj (Option.some.inj hr)
      exact .inr (.inr ⟨plain, c, reply, rest, result, s₁, takes_runCommand_course hplain, by simp,
        rfl, rfl⟩)
  · cases hnone

end AgentLaunch.Ssh
