import AgentLaunch.Ssh.Streams
import Mathlib.Data.List.Basic
import Mathlib.Data.List.TakeWhile

/-!
# What the streams of a command carry

The machine between a channel and the two local pipes can be interrupted at any moment from either
end.  This module tells from the events alone, in whatever order they happen, what the local reader
has been given, what has been sent, and which exit status is left.

Each of the three has its own end: the output ends with the first event after which the machine no
longer listens, the input with the first after which it no longer reads, and everything with the
channel or a kill.  `recorded` is what an observer gathers up to such an end.

* `step_listens`, `step_delivered`, `step_reads`, `step_sent`, `step_status` — what one event does.
* `delivered_run`, `sent_run`, `status_run` — what a whole run does.
* **`intact_run`** — no order of events loses, repeats or reorders anything.
* `carried_of_endOfInput` — a server that is told the end of the input has got all of it.

Each of `delivered_run`, `sent_run` and `status_run` is an induction on the events with the state
generalized, and in each the one-event lemma does the work: a machine that still listens takes what
the event has for it, and one that does not is left alone.  The recordings on the right hand sides
do not mention the machine, so the three statements say what it does in the observer's terms.

The statement about input has a second form.  The machine reads from a pipe, and `ReadsFrom` says
that the pieces it finds there are what was written, in order, and that it finds the end only after
all of them.  Then what it has sent is always a front of what was written.
-/

namespace AgentLaunch.Ssh.Streams

/-! ## Events -/

namespace Event

/-- The machine ends with such an event. -/
def ends : Event → Bool
  | channelClosed => true
  | kill _ => true
  | _ => false

/-- No more output goes to the local reader after such an event: the output has ended, or the
reader has gone away. -/
def endsOutput : Event → Bool
  | output bytes taken => decide (taken < bytes.length)
  | endOfOutput => true
  | e => e.ends

/-- No more input is sent after such an event: the input has ended, or cannot be sent. -/
def endsInput : Event → Bool
  | input _ sent => !sent
  | inputEnd _ => true
  | e => e.ends

/-- The output that the server sends. -/
def payload : Event → Bytes
  | output bytes _ => bytes
  | _ => []

/-- The output that the local reader takes, as long as the machine listens. -/
def taken : Event → Bytes
  | output bytes taken => bytes.take taken
  | _ => []

/-- The piece of the local input that is read. -/
def piece : Event → Bytes
  | input bytes _ => bytes
  | _ => []

/-- What the machine sends because of its input, as long as it reads. -/
def forwarded : Event → List Sending
  | input bytes sent => if sent then [.data bytes] else []
  | inputEnd sent => if sent then [.endOfInput] else []
  | _ => []

/-- What the machine sends because it is killed. -/
def farewell : Event → List Sending
  | kill sent => if sent then [.close] else []
  | _ => []

def exitCode? : Event → Option Nat
  | exitStatus code => some code
  | _ => none

section Ends

variable {e : Event}

lemma cases_of_ends (h : e.ends = true) : e = channelClosed ∨ ∃ sent, e = kill sent := by
  cases e with
  | channelClosed => exact .inl rfl
  | kill sent => exact .inr ⟨sent, rfl⟩
  | _ => simp [ends] at h

lemma endsInput_of_ends (h : e.ends = true) : e.endsInput = true := by
  rcases cases_of_ends h with rfl | ⟨sent, rfl⟩ <;> rfl

lemma farewell_of_not_ends (h : e.ends = false) : e.farewell = [] := by
  cases e <;> simp_all [ends, farewell]

lemma exitCode?_of_ends (h : e.ends = true) : e.exitCode? = none := by
  rcases cases_of_ends h with rfl | ⟨sent, rfl⟩ <;> rfl

end Ends

end Event

/-! ## Recordings -/

section Recordings

variable {α : Type} (isLast : Event → Bool) (f : Event → List α)

/-- The events before the first one of a kind. -/
def before (events : List Event) : List Event :=
  events.takeWhile fun e => !isLast e

/-- What is gathered from the events up to the first one of a kind. -/
def recorded (events : List Event) : List α :=
  (before isLast events).flatMap f ++ ((events.find? isLast).map f).getD []

@[simp] lemma recorded_nil : recorded isLast f [] = [] := rfl

lemma recorded_cons (e : Event) (events : List Event) :
    recorded isLast f (e :: events) = f e ++ if isLast e then [] else recorded isLast f events := by
  cases he : isLast e <;> simp [recorded, before, he]

lemma of_mem_before {events : List Event} {e : Event} (h : e ∈ before isLast events) :
    isLast e = false := by
  simpa using List.mem_takeWhile_imp h

end Recordings

/-! ## One event -/

namespace State

variable (s : State) (e : Event)

/-- Output still goes to the local reader. -/
def listens : Bool := s.running && s.outputOpen

/-- Local input is still sent. -/
def reads : Bool := s.running && s.inputOpen

lemma step_of_not_running (h : s.running = false) : s.step e = s := by
  simp [step, h]

lemma step_running : (s.step e).running = (s.running && !e.ends) := by
  cases e <;> grind [step, react, Event.ends]

lemma step_listens : (s.step e).listens = (s.listens && !e.endsOutput) := by
  cases e <;> grind [step, react, listens, Event.ends, Event.endsOutput]

lemma step_reads : (s.step e).reads = (s.reads && !e.endsInput) := by
  cases e <;> grind [step, react, reads, Event.ends, Event.endsInput]

lemma step_delivered :
    (s.step e).delivered = s.delivered ++ if s.listens then e.taken else [] := by
  cases e <;> grind [step, react, listens, Event.taken]

lemma step_sent :
    (s.step e).sent = s.sent ++ (if s.reads then e.forwarded else [])
      ++ if s.running then e.farewell else [] := by
  cases e <;> grind [step, react, reads, Event.forwarded, Event.farewell]

lemma step_status :
    (s.step e).status = if s.running then e.exitCode?.or s.status else s.status := by
  cases e <;> grind [step, react, Event.exitCode?]

end State

/-! ## A run -/

namespace State

variable (s : State) (events : List Event)

lemma run_cons (e : Event) : s.run (e :: events) = (s.step e).run events := rfl

lemma run_append (more : List Event) : s.run (events ++ more) = (s.run events).run more :=
  List.foldl_append

/-- Nothing happens any more when the machine has ended. -/
lemma run_of_not_running (h : s.running = false) : s.run events = s := by
  induction events with
  | nil => rfl
  | cons e events ih => rw [run_cons, step_of_not_running s e h, ih]

/-- What the local reader gets in a run. -/
lemma delivered_run :
    (s.run events).delivered
      = s.delivered ++ if s.listens then recorded Event.endsOutput Event.taken events else [] := by
  induction events generalizing s with
  | nil => simp [run]
  | cons e events ih =>
      rw [run_cons, ih, step_delivered, step_listens, recorded_cons]
      cases s.listens <;> cases e.endsOutput <;> simp

/-- What the machine sends in a run. -/
lemma sent_run :
    (s.run events).sent
      = s.sent ++ (if s.reads then recorded Event.endsInput Event.forwarded events else [])
        ++ if s.running then recorded Event.ends Event.farewell events else [] := by
  induction events generalizing s with
  | nil => simp [run]
  | cons e events ih =>
      rw [run_cons, ih, step_sent, step_reads, step_running, recorded_cons, recorded_cons]
      cases hends : e.ends with
      | true => simp [Event.endsInput_of_ends hends]
      | false =>
          rw [Event.farewell_of_not_ends hends]
          cases s.reads <;> cases e.endsInput <;> simp

/-- The exit status that a run leaves. -/
lemma status_run :
    (s.run events).status
      = if s.running then
          ((before Event.ends events).filterMap Event.exitCode?).getLast?.or s.status
        else s.status := by
  induction events generalizing s with
  | nil => simp [run, before]
  | cons e events ih =>
      rw [run_cons, ih, step_status, step_running]
      cases hends : e.ends with
      | true => simp [before, hends, Event.exitCode?_of_ends hends]
      | false =>
          have hbefore : before Event.ends (e :: events) = e :: before Event.ends events := by
            simp [before, hends]
          rw [hbefore, List.filterMap_cons]
          cases e.exitCode? with
          | none => simp
          | some code =>
              cases s.running <;>
                cases hlast : ((before Event.ends events).filterMap Event.exitCode?).getLast? <;>
                  simp [List.getLast?_cons, hlast]

end State

/-! ## From the start to the end -/

/-- The bytes in what is sent. -/
def Sending.bytes : Sending → Bytes
  | data bytes => bytes
  | _ => []

/-- The bytes that have been sent on the channel, in order. -/
def State.carried (s : State) : Bytes := s.sent.flatMap Sending.bytes

/-- What the local reader has taken of the output at which it went away. -/
def lastTaken (events : List Event) : Bytes :=
  ((events.find? Event.endsOutput).map Event.taken).getD []

/-- The last exit status that the server sends before the end. -/
def lastExitStatus (events : List Event) : Option Nat :=
  ((before Event.ends events).filterMap Event.exitCode?).getLast?

/-- Such an exit status has been sent. -/
lemma mem_of_lastExitStatus {events : List Event} {code : Nat}
    (h : lastExitStatus events = some code) : Event.exitStatus code ∈ events := by
  obtain ⟨e, he, hcode⟩ := List.mem_filterMap.mp (List.mem_of_getLast? h)
  have hmem : e ∈ events := (List.takeWhile_prefix _).subset he
  cases e with
  | exitStatus sent =>
      obtain rfl := Option.some.inj hcode
      exact hmem
  | _ => cases hcode

section Recorded

variable (events : List Event)

/-- The reader gets all output before the end, and a part of the last one. -/
lemma recorded_taken :
    recorded Event.endsOutput Event.taken events
      = (before Event.endsOutput events).flatMap Event.payload ++ lastTaken events := by
  rw [recorded, lastTaken]
  refine congrArg (· ++ _) (List.flatMap_congr fun e he => ?_)
  have hopen := of_mem_before _ he
  cases e with
  | output bytes taken =>
      simp only [Event.endsOutput, decide_eq_false_iff_not, Nat.not_lt] at hopen
      exact List.take_of_length_le hopen
  | _ => rfl

/-- What is said of the end of the input. -/
def endSaid : List Sending :=
  ((events.find? Event.endsInput).map Event.forwarded).getD []

/-- What is said of the end of the command. -/
def farewellSaid : List Sending := recorded Event.ends Event.farewell events

/-- The pieces of the input that are read before its end, as they are sent. -/
def piecesSent : List Sending :=
  (before Event.endsInput events).flatMap Event.forwarded

lemma endSaid_cases : endSaid events = [] ∨
    endSaid events = [.endOfInput] ∧ events.find? Event.endsInput = some (.inputEnd true) := by
  unfold endSaid
  cases hlast : events.find? Event.endsInput with
  | none => exact .inl rfl
  | some e =>
      have hends := List.find?_some hlast
      cases e with
      | input bytes sent =>
          left
          cases sent with
          | false => rfl
          | true => simp [Event.endsInput] at hends
      | inputEnd sent =>
          cases sent with
          | false => exact .inl rfl
          | true => exact .inr ⟨rfl, rfl⟩
      | _ => exact .inl rfl

lemma farewellSaid_cases : farewellSaid events = [] ∨ farewellSaid events = [.close] := by
  have hbefore : (before Event.ends events).flatMap Event.farewell = [] := by
    rw [List.flatMap_eq_nil_iff]
    exact fun e he => Event.farewell_of_not_ends (of_mem_before _ he)
  unfold farewellSaid recorded
  rw [hbefore, List.nil_append]
  cases events.find? Event.ends with
  | none => exact .inl rfl
  | some e =>
      cases e with
      | kill sent =>
          cases sent with
          | false => exact .inl rfl
          | true => exact .inr rfl
      | _ => exact .inl rfl

/-- An event that does not end the input sends its piece. -/
lemma forwarded_of_not_endsInput {e : Event} (h : e.endsInput = false) :
    e.forwarded.flatMap Sending.bytes = e.piece ∧ ∀ x ∈ e.forwarded, ∃ bytes, x = .data bytes := by
  cases e with
  | input bytes sent =>
      cases sent with
      | false => simp [Event.endsInput] at h
      | true => simp [Event.forwarded, Sending.bytes, Event.piece]
  | inputEnd sent => simp [Event.endsInput] at h
  | _ => simp [Event.forwarded, Event.piece]

lemma bytes_piecesSent :
    (piecesSent events).flatMap Sending.bytes
      = (before Event.endsInput events).flatMap Event.piece := by
  rw [piecesSent, List.flatMap_assoc]
  exact List.flatMap_congr fun e he => (forwarded_of_not_endsInput (of_mem_before _ he)).1

lemma data_of_mem_piecesSent {x : Sending} (h : x ∈ piecesSent events) :
    ∃ bytes, x = .data bytes := by
  obtain ⟨e, he, hx⟩ := List.mem_flatMap.mp h
  exact (forwarded_of_not_endsInput (of_mem_before _ he)).2 x hx

/-- **All that is sent**: the pieces of the input, its end, and the end of the command. -/
lemma sent_eq :
    (State.run {} events).sent = piecesSent events ++ endSaid events ++ farewellSaid events := by
  have hrun := State.sent_run {} events
  simpa [State.reads, recorded, piecesSent, endSaid, farewellSaid] using hrun

lemma delivered_eq :
    (State.run {} events).delivered
      = (before Event.endsOutput events).flatMap Event.payload ++ lastTaken events := by
  have hrun := State.delivered_run {} events
  simpa [State.listens, recorded_taken] using hrun

lemma carried_eq :
    (State.run {} events).carried = (before Event.endsInput events).flatMap Event.piece := by
  have hend : (endSaid events).flatMap Sending.bytes = [] := by
    rcases endSaid_cases events with h | ⟨h, -⟩ <;> simp [h, Sending.bytes]
  have hfarewell : (farewellSaid events).flatMap Sending.bytes = [] := by
    rcases farewellSaid_cases events with h | h <;> simp [h, Sending.bytes]
  rw [State.carried, sent_eq, List.flatMap_append, List.flatMap_append, hend, hfarewell,
    bytes_piecesSent, List.append_nil, List.append_nil]

lemma status_eq : (State.run {} events).status = lastExitStatus events := by
  have hrun := State.status_run {} events
  simpa [lastExitStatus] using hrun

/-- The end of the input comes after its pieces, and only the end of the command after it. -/
lemma sent_endOfInput {front rest : List Sending}
    (h : (State.run {} events).sent = front ++ .endOfInput :: rest) :
    front = piecesSent events ∧ rest = farewellSaid events
      ∧ events.find? Event.endsInput = some (.inputEnd true) := by
  have hpieces : Sending.endOfInput ∉ piecesSent events := by
    intro hmem
    obtain ⟨bytes, hdata⟩ := data_of_mem_piecesSent events hmem
    cases hdata
  rw [sent_eq] at h
  rcases endSaid_cases events with hend | ⟨hend, hfind⟩
  · exfalso
    have hmem : Sending.endOfInput
        ∈ piecesSent events ++ endSaid events ++ farewellSaid events := by
      rw [h]
      simp
    rcases farewellSaid_cases events with hfarewell | hfarewell <;>
      simp [hend, hfarewell, hpieces] at hmem
  · rw [hend, List.append_assoc] at h
    have hfarewell : Sending.endOfInput ∉ farewellSaid events := by
      rcases farewellSaid_cases events with h | h <;> simp [h]
    obtain ⟨hfront, -, hrest⟩ := (List.append_cons_inj_of_notMem hpieces hfarewell).mp h
    exact ⟨hfront.symm, hrest.symm, hfind⟩

end Recorded

/-! ## Intact streams -/

/-- **Intact streams**, for the events of a command and the state that they lead to. -/
structure Intact (events : List Event) (s : State) : Prop where
  /-- The local reader gets the output before its end, in order, and of the output at which it goes
  away what it has taken. -/
  delivered_eq : s.delivered
    = (before Event.endsOutput events).flatMap Event.payload ++ lastTaken events
  /-- The server gets the input before its end, in order. -/
  carried_eq : s.carried = (before Event.endsInput events).flatMap Event.piece
  /-- It is told the end of the input once at most, after which only the channel is closed. -/
  endSaidOnce : ∀ front rest, s.sent = front ++ .endOfInput :: rest →
    .endOfInput ∉ front ∧ (rest = [] ∨ rest = [.close])
  /-- At the end of the channel or a kill, and after it, nothing is delivered and nothing is sent,
  except that a kill closes the channel. -/
  quietAfterEnd : ∀ front e rest, events = front ++ e :: rest → e.ends = true →
    s.delivered = (State.run {} front).delivered
      ∧ (s.sent = (State.run {} front).sent ∨ s.sent = (State.run {} front).sent ++ [.close])
      ∧ s.status = (State.run {} front).status
  /-- The last exit status before the end is left. -/
  status_eq : s.status = lastExitStatus events

section Intact

variable {events : List Event}

/-- An event that ends the machine delivers nothing and sends no input. -/
lemma step_of_ends (s : State) {e : Event} (h : e.ends = true) :
    (s.step e).running = false ∧ (s.step e).delivered = s.delivered
      ∧ ((s.step e).sent = s.sent ∨ (s.step e).sent = s.sent ++ [.close])
      ∧ (s.step e).status = s.status := by
  refine ⟨?_, ?_, ?_, ?_⟩
  · rw [State.step_running, h, Bool.not_true, Bool.and_false]
  · rw [State.step_delivered]
    rcases Event.cases_of_ends h with rfl | ⟨sent, rfl⟩ <;> simp [Event.taken]
  · rw [State.step_sent]
    rcases Event.cases_of_ends h with rfl | ⟨sent, rfl⟩
    · simp [Event.forwarded, Event.farewell]
    · cases s.running <;> cases sent <;> simp [Event.forwarded, Event.farewell]
  · rw [State.step_status, Event.exitCode?_of_ends h]
    simp

lemma run_of_ends (s : State) {front rest : List Event} {e : Event} (h : e.ends = true) :
    s.run (front ++ e :: rest) = (s.run front).step e := by
  rw [State.run_append, State.run_cons]
  exact State.run_of_not_running _ _ (step_of_ends _ h).1

/-- **The streams are intact**, in whatever order things happen. -/
lemma intact_run (events : List Event) : Intact events (State.run {} events) where
  delivered_eq := delivered_eq events
  carried_eq := carried_eq events
  endSaidOnce := by
    intro front rest hsent
    obtain ⟨rfl, rfl, -⟩ := sent_endOfInput events hsent
    refine ⟨fun hmem => ?_, farewellSaid_cases events⟩
    obtain ⟨bytes, hdata⟩ := data_of_mem_piecesSent events hmem
    cases hdata
  quietAfterEnd := by
    rintro front e rest rfl hends
    rw [run_of_ends _ hends]
    exact (step_of_ends _ hends).2
  status_eq := status_eq events

/-! ## A server that is told the end -/

/-- The machine reads a pipe into which some bytes have been written: its pieces are these bytes in
order, and it finds the end after the last of them. -/
structure ReadsFrom (written : Bytes) (events : List Event) : Prop where
  inOrder : events.flatMap Event.piece <+: written
  toTheEnd : ∀ front sent rest, events = front ++ .inputEnd sent :: rest →
    front.flatMap Event.piece = written

/-- What has been sent is always the front of what was written. -/
lemma carried_prefix {written : Bytes} (h : ReadsFrom written events) :
    (State.run {} events).carried <+: written := by
  rw [carried_eq]
  refine List.IsPrefix.trans ?_ h.inOrder
  obtain ⟨rest, hrest⟩ := List.takeWhile_prefix (l := events) fun e => !Event.endsInput e
  exact ⟨rest.flatMap Event.piece, by rw [before, ← List.flatMap_append, hrest]⟩

/-- **A server that is told the end of the input has got all of it.** -/
lemma carried_of_endOfInput {written : Bytes} (h : ReadsFrom written events)
    (hend : .endOfInput ∈ (State.run {} events).sent) :
    (State.run {} events).carried = written := by
  obtain ⟨front, rest, hsent⟩ := List.append_of_mem hend
  obtain ⟨-, -, hfind⟩ := sent_endOfInput events hsent
  obtain ⟨-, earlier, later, hevents, hearlier⟩ := List.find?_eq_some_iff_append.mp hfind
  have hbefore : before Event.endsInput events = earlier := by
    rw [hevents, before, List.takeWhile_append_of_pos (by simpa using hearlier)]
    simp [Event.endsInput]
  rw [carried_eq, hbefore]
  exact h.toTheEnd _ _ _ hevents

end Intact

end AgentLaunch.Ssh.Streams
