import AgentLaunch.Proofs.Ssh.Steps

/-!
# Running commands in a session

What can be read of a session that has run a command or uploaded a file: which requests it has made
and what has become of them.  Everything before the command runs is preparation, in which nobody
waits for an end; after that the end of the command is waited for once.

* `Asks` — all requests of a step are of one kind; a step made of such steps is one.
* `takes_startCommand_ok_iff`, `takes_finish_iff`, `takes_sendLines_ok_iff` — the parts.
* `takes_upload_cases` — how an upload goes.
* `takes_runCommand`, `takes_upload` — the end that is heard, and the result it leads to.
* **`takes_upload_ok_iff`** — the only way in which an upload succeeds.

`Asks` needs no look at replies: what kind of requests a step makes is fixed by the step, and the
law for sequences passes it on.  It is used twice, here for the requests that only prepare a
command and in `UploadScript` for those that start one, and both times the definitions are gone
through in the same order.

An upload is long, so its last part has a name, `conclude`, and an equation that shows where it is.
`takes_upload_cases` then has three cases, one for each point at which an upload can have failed,
and the two statements about its result are read off them: what a success needs, and which end a
failure has heard.
-/

namespace AgentLaunch.Ssh

/-! ## Requests of one kind -/

/-- All requests of a step are of one kind, whatever the session and the replies. -/
def Asks {α : Type} (kind : Call → Bool) (step : Step α) : Prop :=
  ∀ s es r s', Takes step s es r s' → ∀ x ∈ es, kind x.request = true

section Asks

variable {α β : Type} {kind : Call → Bool}

lemma asks_pure (a : α) : Asks kind (pure a) := by
  intro s es r s' h x hx
  obtain ⟨rfl, -, -⟩ := takes_pure_iff.mp h
  simp at hx

lemma asks_throw (e : TransportError) : Asks kind (throw e : Step α) := by
  intro s es r s' h x hx
  obtain ⟨rfl, -, -⟩ := takes_throw_iff.mp h
  simp at hx

lemma Asks.bind {step : Step α} {f : α → Step β} (h : Asks kind step)
    (hf : ∀ a, Asks kind (f a)) : Asks kind (step >>= f) := by
  intro s es r s' ht x hx
  rcases takes_bind_iff.mp ht with ⟨first, a, s₁, second, h₁, h₂, rfl⟩ | ⟨e, he, -⟩
  · rcases List.mem_append.mp hx with hx | hx
    · exact h _ _ _ _ h₁ x hx
    · exact hf a _ _ _ _ h₂ x hx
  · exact h _ _ _ _ he x hx

/-- What comes after a failure is not reached. -/
lemma asks_throw_bind {e : TransportError} {f : α → Step β} :
    Asks kind ((throw e : Step α) >>= f) := by
  intro s es r s' ht x hx
  rcases takes_bind_iff.mp ht with ⟨_, a, _, _, hfirst, -, -⟩ | ⟨_, hfirst, -⟩
  · obtain ⟨-, hr, -⟩ := takes_throw_iff.mp hfirst
    cases hr
  · exact asks_throw e _ _ _ _ hfirst x hx

lemma asks_ask_bind {c : Call} {f : c.Reply → Step β} (hc : kind c = true)
    (hf : ∀ reply, Asks kind (f reply)) : Asks kind (Session.ask c >>= f) := by
  refine Asks.bind ?_ hf
  intro s es r s' ht x hx
  obtain ⟨reply, rfl, -, -⟩ := takes_ask_iff.mp ht
  obtain rfl := List.mem_singleton.mp hx
  exact hc

lemma asks_get_bind {f : Session → Step β} (hf : ∀ s, Asks kind (f s)) :
    Asks kind (get >>= f) :=
  fun s _ _ _ ht => hf s _ _ _ _ (takes_get_bind_iff.mp ht)

lemma asks_modify_bind {g : Session → Session} {f : Unit → Step β} (hf : Asks kind (f ())) :
    Asks kind (modify g >>= f) :=
  fun _ _ _ _ ht => hf _ _ _ _ (takes_modify_bind_iff.mp ht)

end Asks

/-- A request that leads to a command that runs. -/
def Call.prepares : Call → Bool
  | connect _ => true
  | authenticate _ _ _ => true
  | isClosed _ => true
  | openChannel _ => true
  | start _ _ _ => true
  | _ => false

/-- The ends of commands that have been heard, each with its channel and the exit status. -/
def ends (es : List Event) : List (ChannelId × Option Nat) :=
  es.filterMap fun
    | ⟨.awaitEnd channel, status⟩ => some (channel, status)
    | _ => none

lemma ends_append (es es' : List Event) : ends (es ++ es') = ends es ++ ends es' :=
  List.filterMap_append

lemma ends_of_prepares {es : List Event} (h : ∀ x ∈ es, x.request.prepares = true) :
    ends es = [] := by
  refine List.filterMap_eq_nil_iff.mpr fun x hx => ?_
  have hprepares := h x hx
  obtain ⟨request, reply⟩ := x
  cases request with
  | awaitEnd channel => simp [Call.prepares] at hprepares
  | _ => rfl

/-- An operation fails without having heard an end, or it makes its result of the one end that it
has heard. -/
def EndsWith {α : Type} (es : List Event) (r : Except TransportError α)
    (make : Nat → Except TransportError α) : Prop :=
  (ends es = [] ∧ ∃ e, r = .error e)
    ∨ ∃ channel status, ends es = [(channel, status)] ∧ r = (exitResult status).bind make

namespace Session

lemma connect_prepares : Asks Call.prepares connect := by
  unfold connect
  refine asks_get_bind fun s => asks_ask_bind rfl fun reply => ?_
  rcases reply with (_ | _) | connection
  · exact asks_throw _
  · exact asks_throw _
  · refine asks_ask_bind rfl fun reply => ?_
    rcases reply with (_ | _) | _ | _
    · exact asks_throw _
    · exact asks_throw _
    · exact asks_throw _
    · exact asks_modify_bind (asks_pure _)

lemma liveConnection_prepares : Asks Call.prepares liveConnection := by
  unfold liveConnection
  refine asks_get_bind fun s => ?_
  cases s.closed with
  | true => exact asks_throw_bind
  | false =>
      cases s.connection with
      | none => exact connect_prepares
      | some connection =>
          refine asks_ask_bind rfl fun gone => ?_
          cases gone with
          | true => exact asks_modify_bind connect_prepares
          | false => exact asks_pure _

section Kind

variable {kind : Call → Bool}

/-- What a command is started with. -/
lemma startCommand_asks {command : String} {limit : Option Nat} (hlive : Asks kind liveConnection)
    (hopen : ∀ connection, kind (.openChannel connection) = true)
    (hstart : ∀ channel, kind (.start channel command limit) = true) :
    Asks kind (startCommand command limit) := by
  unfold startCommand
  refine hlive.bind fun connection => asks_ask_bind (hopen connection) fun reply => ?_
  rcases reply with _ | channel
  · exact asks_throw _
  · refine asks_ask_bind (hstart channel) fun reply => ?_
    rcases reply with (_ | _) | _
    · exact asks_throw _
    · exact asks_throw _
    · exact asks_pure _

lemma sendLines_asks {channel : ChannelId} (hend : kind (.endInput channel) = true)
    (hwrite : ∀ line, kind (.writeInput channel line) = true) (lines : List Bytes) :
    Asks kind (sendLines channel lines) := by
  induction lines with
  | nil => exact asks_ask_bind hend asks_pure
  | cons line lines ih =>
      refine asks_ask_bind (hwrite line) fun reply => ?_
      cases reply with
      | ok => exact ih
      | error text => exact asks_pure _

end Kind

lemma startCommand_prepares (command : String) (limit : Option Nat) :
    Asks Call.prepares (startCommand command limit) :=
  startCommand_asks liveConnection_prepares (fun _ => rfl) fun _ => rfl

/-! ## The parts of an operation -/

section Parts

variable {s s' : Session} {es : List Event}

/-- A command that runs has been started on a new channel of a connection. -/
lemma takes_startCommand_ok_iff {command : String} {limit : Option Nat} {p : Process} :
    Takes (startCommand command limit) s es (.ok p) s'
      ↔ ∃ front connection channel, Takes liveConnection s front (.ok connection) s'
          ∧ es = front ++ [asked (.openChannel connection) (.ok channel),
              asked (.start channel command limit) (.ok ())]
          ∧ p = { channel } := by
  unfold startCommand
  constructor
  · intro h
    rcases takes_bind_iff.mp h with ⟨front, connection, s₁, _, hfront, hopen, rfl⟩ | ⟨_, -, he⟩
    · obtain ⟨reply, _, hstart, rfl⟩ := takes_ask_bind_iff.mp hopen
      rcases reply with text | channel
      · obtain ⟨-, he, -⟩ := takes_throw_iff.mp hstart
        cases he
      · obtain ⟨reply, _, hend, rfl⟩ := takes_ask_bind_iff.mp hstart
        rcases reply with (_ | _) | _
        · obtain ⟨-, he, -⟩ := takes_throw_iff.mp hend
          cases he
        · obtain ⟨-, he, -⟩ := takes_throw_iff.mp hend
          cases he
        · obtain ⟨rfl, hp, rfl⟩ := takes_pure_iff.mp hend
          exact ⟨front, connection, channel, hfront, rfl, Except.ok.inj hp⟩
    · cases he
  · rintro ⟨front, connection, channel, hfront, rfl, rfl⟩
    refine takes_bind_iff.mpr (.inl ⟨front, connection, s', _, hfront, ?_, rfl⟩)
    refine takes_ask_bind_iff.mpr ⟨.ok channel, _, ?_, rfl⟩
    exact takes_ask_bind_iff.mpr ⟨.ok (), [], takes_pure_iff.mpr ⟨rfl, rfl, rfl⟩, rfl⟩

/-- A process that nobody has waited for is waited for, and then let go. -/
lemma takes_finish_iff {p : Process} (hcode : p.exitCode = none) (hawaitable : p.awaitable = true)
    {r : Except TransportError Nat} :
    Takes (finish p) s es r s'
      ↔ ∃ status, es = p.drops ++ [asked (.awaitEnd p.channel) status, asked (.kill p.channel) ()]
          ∧ r = exitResult status ∧ s' = s := by
  unfold finish
  constructor
  · intro h
    rcases takes_bind_iff.mp h with ⟨_, _, _, _, hwait, hkill, rfl⟩ | ⟨_, hwait, -⟩
    · obtain ⟨_, ht, hresult, rfl⟩ := takes_lift_iff.mp hwait
      obtain ⟨status, rfl, hstatus⟩ := (transcript_wait_iff hcode hawaitable).mp ht
      obtain rfl := Except.ok.inj hresult
      obtain rfl := Option.some.inj hstatus
      obtain ⟨_, _, hlast, rfl⟩ := takes_ask_bind_iff.mp hkill
      obtain ⟨rfl, rfl, rfl⟩ := takes_liftExcept_iff.mp hlast
      exact ⟨status, by simp, rfl, rfl⟩
    · obtain ⟨_, -, hresult, -⟩ := takes_lift_iff.mp hwait
      cases hresult
  · rintro ⟨status, rfl, rfl, rfl⟩
    have ht := (transcript_wait_iff hcode hawaitable).mpr ⟨status, rfl, rfl⟩
    have hwait : Takes (ExceptT.lift (StateT.lift p.wait)) s'
        (p.drops ++ [asked (.awaitEnd p.channel) status])
        (.ok (exitResult status, p.spent status)) s' :=
      takes_lift_iff.mpr ⟨_, ht, rfl, rfl⟩
    have hkill : Takes (do ask (.kill p.channel); liftExcept (exitResult status)) s'
        [asked (.kill p.channel) ()] (exitResult status) s' :=
      takes_ask_bind_iff.mpr ⟨(), [], takes_liftExcept_iff.mpr ⟨rfl, rfl, rfl⟩, rfl⟩
    exact takes_bind_iff.mpr (.inl ⟨_, _, s', _, hwait, hkill, by simp⟩)

/-- All lines are sent if each of them can be written and the input can be ended. -/
lemma takes_sendLines_ok_iff {channel : ChannelId} {lines : List Bytes} :
    Takes (sendLines channel lines) s es (.ok (.ok ())) s'
      ↔ es = lines.map (fun line => asked (.writeInput channel line) (.ok ()))
            ++ [asked (.endInput channel) (.ok ())]
          ∧ s' = s := by
  induction lines generalizing es with
  | nil =>
      refine takes_ask_iff.trans ?_
      constructor
      · rintro ⟨reply, rfl, hr, rfl⟩
        obtain rfl := Except.ok.inj hr
        exact ⟨rfl, rfl⟩
      · rintro ⟨rfl, rfl⟩
        exact ⟨.ok (), rfl, rfl, rfl⟩
  | cons line lines ih =>
      refine takes_ask_bind_iff.trans ?_
      constructor
      · rintro ⟨reply, rest, hrest, rfl⟩
        rcases reply with text | _
        · obtain ⟨-, hr, -⟩ := takes_pure_iff.mp hrest
          cases Except.ok.inj hr
        · obtain ⟨rfl, rfl⟩ := ih.mp hrest
          exact ⟨rfl, rfl⟩
      · rintro ⟨rfl, rfl⟩
        exact ⟨.ok (), _, ih.mpr ⟨rfl, rfl⟩, rfl⟩

end Parts

/-! ## Ends that are heard -/

/-- What an upload makes of the exit code of its command. -/
def uploadVerdict (path : String) : Nat → Except TransportError Unit
  | 0 => .ok ()
  | code => .error (.command ("writing " ++ path ++ " failed with exit code " ++ toString code))

section Operations

variable {s s' : Session} {es : List Event}

/-- A command that runs has been prepared without hearing an end. -/
lemma takes_startCommand {command : String} {limit : Option Nat} {r : Except TransportError Process}
    (h : Takes (startCommand command limit) s es r s') :
    ends es = [] ∧ ∀ p, r = .ok p → ∃ channel, p = { channel } := by
  constructor
  · exact ends_of_prepares (startCommand_prepares command limit _ _ _ _ h)
  · rintro p rfl
    obtain ⟨-, -, channel, -, -, rfl⟩ := takes_startCommand_ok_iff.mp h
    exact ⟨channel, rfl⟩

lemma takes_runCommand {command : String} {r : Except TransportError Nat}
    (h : Takes (runCommand command) s es r s') : EndsWith es r .ok := by
  unfold runCommand at h
  rcases takes_bind_iff.mp h with ⟨_, p, s₁, _, hstart, hfinish, rfl⟩ | ⟨e, hstart, rfl⟩
  · obtain ⟨hnone, hp⟩ := takes_startCommand hstart
    obtain ⟨channel, rfl⟩ := hp p rfl
    obtain ⟨status, rfl, rfl, -⟩ := (takes_finish_iff rfl rfl).mp hfinish
    refine .inr ⟨channel, status, ?_, by cases status <;> rfl⟩
    rw [ends_append, hnone]
    rfl
  · exact .inl ⟨(takes_startCommand hstart).1, e, rfl⟩

lemma takes_sendLines {channel : ChannelId} {lines : List Bytes}
    {r : Except TransportError (Except String Unit)}
    (h : Takes (sendLines channel lines) s es r s') :
    ends es = [] ∧ ∃ sent, r = .ok sent := by
  induction lines generalizing es with
  | nil =>
      obtain ⟨reply, rfl, hr, -⟩ := takes_ask_iff.mp h
      exact ⟨rfl, reply, hr⟩
  | cons line lines ih =>
      obtain ⟨reply, rest, hrest, rfl⟩ := takes_ask_bind_iff.mp h
      rcases reply with text | _
      · obtain ⟨rfl, hr, -⟩ := takes_pure_iff.mp hrest
        exact ⟨rfl, _, hr⟩
      · obtain ⟨hnone, hr⟩ := ih hrest
        exact ⟨hnone, hr⟩

/-- The last part of an upload, when all lines are sent. -/
def conclude (path : String) (p : Process) : Step Unit := do
  match ← finish p with
  | 0 => pure ()
  | code => throw (.command ("writing " ++ path ++ " failed with exit code " ++ toString code))

lemma takes_conclude_iff {path : String} {p : Process} (hcode : p.exitCode = none)
    (hawaitable : p.awaitable = true) {r : Except TransportError Unit} :
    Takes (conclude path p) s es r s'
      ↔ ∃ status, es = p.drops ++ [asked (.awaitEnd p.channel) status, asked (.kill p.channel) ()]
          ∧ r = (exitResult status).bind (uploadVerdict path) ∧ s' = s := by
  unfold conclude
  constructor
  · intro h
    rcases takes_bind_iff.mp h with ⟨_, code, s₁, _, hfinish, hlast, rfl⟩ | ⟨e, hfinish, rfl⟩
    · obtain ⟨status, rfl, hresult, rfl⟩ := (takes_finish_iff hcode hawaitable).mp hfinish
      rcases status with _ | _ | code
      · cases hresult
      · obtain rfl := Except.ok.inj hresult
        obtain ⟨rfl, rfl, rfl⟩ := takes_pure_iff.mp hlast
        exact ⟨some 0, by simp, rfl, rfl⟩
      · obtain rfl := Except.ok.inj hresult
        obtain ⟨rfl, rfl, rfl⟩ := takes_throw_iff.mp hlast
        exact ⟨some (code + 1), by simp, rfl, rfl⟩
    · obtain ⟨status, rfl, hresult, rfl⟩ := (takes_finish_iff hcode hawaitable).mp hfinish
      rcases status with _ | _
      · obtain rfl := Except.error.inj hresult
        exact ⟨none, rfl, rfl, rfl⟩
      · cases hresult
  · rintro ⟨status, rfl, rfl, rfl⟩
    have hfinish : Takes (finish p) s' _ (exitResult status) s' :=
      (takes_finish_iff hcode hawaitable).mpr ⟨status, rfl, rfl, rfl⟩
    rcases status with _ | _ | code
    · exact takes_bind_iff.mpr (.inr ⟨_, hfinish, rfl⟩)
    · have hlast : Takes (pure ()) s' [] (uploadVerdict path 0) s' :=
        takes_pure_iff.mpr ⟨rfl, rfl, rfl⟩
      exact takes_bind_iff.mpr (.inl ⟨_, 0, s', [], hfinish, hlast, by simp⟩)
    · have hlast : Takes (throw _) s' [] (uploadVerdict path (code + 1)) s' :=
        takes_throw_iff.mpr ⟨rfl, rfl, rfl⟩
      exact takes_bind_iff.mpr (.inl ⟨_, code + 1, s', [], hfinish, hlast, by simp⟩)

/-- An upload, with its last part by its name. -/
lemma upload_eq (path : String) (contents : Bytes) :
    upload path contents = (do
      let process ← startCommand (Upload.command path) none
      match ← sendLines process.channel (Upload.lines contents) with
      | .error text =>
        ask (.kill process.channel)
        throw (.io text)
      | .ok () => conclude path { process with hasInput := false }) :=
  rfl

/-- **How an upload goes**: its command cannot be started, or its lines cannot be sent, or all are
sent and the command ends. -/
lemma takes_upload_cases {path : String} {contents : Bytes} {r : Except TransportError Unit}
    (h : Takes (upload path contents) s es r s') :
    (∃ e, Takes (startCommand (Upload.command path) none) s es (.error e) s' ∧ r = .error e)
      ∨ ∃ channel started s₁ sent reply rest,
          Takes (startCommand (Upload.command path) none) s started (.ok { channel }) s₁
          ∧ Takes (sendLines channel (Upload.lines contents)) s₁ sent (.ok reply) s'
          ∧ es = started ++ (sent ++ rest)
          ∧ ((∃ text, reply = .error text ∧ rest = [asked (.kill channel) ()]
                ∧ r = .error (.io text))
            ∨ reply = .ok () ∧ ∃ status, rest = [asked (.dropOutput channel) (),
                  asked (.awaitEnd channel) status, asked (.kill channel) ()]
                ∧ r = (exitResult status).bind (uploadVerdict path)) := by
  rw [upload_eq] at h
  rcases takes_bind_iff.mp h with ⟨started, p, s₁, _, hstart, hsend, rfl⟩ | ⟨e, hstart, rfl⟩
  · right
    obtain ⟨channel, rfl⟩ := (takes_startCommand hstart).2 p rfl
    rcases takes_bind_iff.mp hsend with ⟨sent, reply, s₂, _, hlines, hlast, rfl⟩ | ⟨e, hlines, -⟩
    · rcases reply with text | _
      · obtain ⟨_, _, hkill, rfl⟩ := takes_ask_bind_iff.mp hlast
        obtain ⟨rfl, rfl, rfl⟩ := takes_throw_iff.mp hkill
        exact ⟨channel, started, s₁, sent, _, _, hstart, hlines, rfl, .inl ⟨text, rfl, rfl, rfl⟩⟩
      · obtain ⟨status, rfl, rfl, rfl⟩ := (takes_conclude_iff rfl rfl).mp hlast
        exact ⟨channel, started, s₁, sent, _, _, hstart, hlines, rfl,
          .inr ⟨rfl, status, rfl, rfl⟩⟩
    · obtain ⟨-, _, he⟩ := takes_sendLines hlines
      cases he
  · exact .inl ⟨e, hstart, rfl⟩

lemma takes_upload {path : String} {contents : Bytes} {r : Except TransportError Unit}
    (h : Takes (upload path contents) s es r s') : EndsWith es r (uploadVerdict path) := by
  rcases takes_upload_cases h with
    ⟨e, hstart, rfl⟩ | ⟨channel, started, s₁, sent, reply, rest, hstart, hlines, rfl, hlast⟩
  · exact .inl ⟨(takes_startCommand hstart).1, e, rfl⟩
  · have hstarted := (takes_startCommand hstart).1
    have hsent := (takes_sendLines hlines).1
    have hends : ends (started ++ (sent ++ rest)) = ends rest := by
      rw [ends_append, ends_append, hstarted, hsent, List.nil_append, List.nil_append]
    rcases hlast with ⟨text, -, rfl, rfl⟩ | ⟨-, status, rfl, rfl⟩
    · exact .inl ⟨hends, _, rfl⟩
    · exact .inr ⟨channel, status, hends, rfl⟩

lemma uploadVerdict_ok_iff {path : String} {status : Option Nat} :
    (exitResult status).bind (uploadVerdict path) = .ok () ↔ status = some 0 := by
  constructor
  · intro h
    rcases status with _ | _ | _
    · cases h
    · rfl
    · cases h
  · rintro rfl
    rfl

/-- An upload that succeeds, once there is a connection: the command is started, every line is
written, the input is ended, and the command ends with the exit code 0. -/
def successfulUpload (path : String) (contents : Bytes) (connection : ConnectionId)
    (channel : ChannelId) : List Event :=
  [asked (.openChannel connection) (.ok channel),
      asked (.start channel (Upload.command path) none) (.ok ())]
    ++ (Upload.lines contents).map (fun line => asked (.writeInput channel line) (.ok ()))
    ++ [asked (.endInput channel) (.ok ()), asked (.dropOutput channel) (),
      asked (.awaitEnd channel) (some 0), asked (.kill channel) ()]

/-- **An upload succeeds in one way only.** -/
lemma takes_upload_ok_iff {path : String} {contents : Bytes} :
    Takes (upload path contents) s es (.ok ()) s'
      ↔ ∃ front connection channel, Takes liveConnection s front (.ok connection) s'
          ∧ es = front ++ successfulUpload path contents connection channel := by
  constructor
  · intro h
    rcases takes_upload_cases h with
      ⟨_, -, he⟩ | ⟨channel, _, _, _, _, _, hstart, hlines, rfl, hlast⟩
    · cases he
    · obtain ⟨front, connection, started, hfront, rfl, hp⟩ := takes_startCommand_ok_iff.mp hstart
      obtain rfl : channel = started := congrArg Process.channel hp
      rcases hlast with ⟨_, -, -, he⟩ | ⟨rfl, status, rfl, hresult⟩
      · cases he
      · obtain ⟨rfl, rfl⟩ := takes_sendLines_ok_iff.mp hlines
        obtain rfl := uploadVerdict_ok_iff.mp hresult.symm
        exact ⟨front, connection, channel, hfront, by simp [successfulUpload]⟩
  · rintro ⟨front, connection, channel, hfront, rfl⟩
    have hstart : Takes (startCommand (Upload.command path) none) s _ (.ok { channel }) s' :=
      takes_startCommand_ok_iff.mpr ⟨front, connection, channel, hfront, rfl, rfl⟩
    have hlines : Takes (sendLines channel (Upload.lines contents)) s' _ (.ok (.ok ())) s' :=
      takes_sendLines_ok_iff.mpr ⟨rfl, rfl⟩
    have hlast : Takes (conclude path { channel, hasInput := false }) s' _ (.ok ()) s' :=
      (takes_conclude_iff rfl rfl).mpr ⟨some 0, rfl, rfl, rfl⟩
    rw [upload_eq]
    refine takes_bind_iff.mpr (.inl ⟨_, _, s', _, hstart,
      takes_bind_iff.mpr (.inl ⟨_, _, s', _, hlines, hlast, rfl⟩), ?_⟩)
    simp [Process.drops, successfulUpload]

end Operations

end Session

end AgentLaunch.Ssh
