import AgentLaunch.Channel.Relay
import AgentLaunch.Proofs.Attempt.Teardown

/-!
# How a relay closes its channel

A relay runs the close hook when one of its directions has ended, and says that its channel is
closed if that run had the action.  If somebody else has run the hook before, the relay does not
wait for them: its channel counts as closed, and so it is told to those who wait for that, while
the teardown may be at any point.

* `Side`, `State.stepSide` — both directions as one.
* `Goes` — what a move can do, as a case distinction.
* `Sound` — what holds in all states of a relay; `Goes.sound` is one lemma for each kind of move.
* **`run_closes`** — what a closed channel tells about its process and its session.

`Sound` is the invariant, and it holds of every state that any moves lead to.  It ties the relay to
its hook, whose states are known (`Teardown.Reached`); it says that nothing is told before the
channel is closed; and for a closed channel it has two cases, by whose run had the action.  A move
is taken apart by `Goes`, and one lemma for each kind of move shows that the invariant is kept.

What a closed channel tells is a consequence of the invariant.  The line means that the teardown is
complete, and being closed does not: `closed_beforeTornDown` has a relay that closes its channel
while somebody else's run is still ending the process.
-/

namespace AgentLaunch.Relay

open Teardown (TornDown)

/-! ## Sides -/

/-- A direction, by where it goes. -/
inductive Side where
  | outbound
  | inbound
  deriving DecidableEq, Repr

namespace Side

/-- A step of a side, as a move of the relay. -/
def move : Side → Step → Move
  | outbound => .outbound
  | inbound => .inbound

/-- What is done to the target of a side, as an event of the relay. -/
def event : Side → Effect → Event
  | outbound => .outbound
  | inbound => .inbound

end Side

namespace State

def direction (s : State) : Side → Direction
  | .outbound => s.outbound
  | .inbound => s.inbound

def stepSide (s : State) : Side → Step → State
  | .outbound => s.stepOutbound
  | .inbound => s.stepInbound

end State

section Sides

variable (s : State) (side : Side) (step : Step)

lemma name_stepSide : (s.stepSide side step).name = s.name := by
  cases side <;> rfl

lemma hook_stepSide : (s.stepSide side step).hook = s.hook := by
  cases side <;> rfl

lemma events_stepSide : (s.stepSide side step).events
    = s.events ++ ((s.direction side).step step).2.map side.event := by
  cases side <;> rfl

/-- The direction that finishes first ends the channel. -/
lemma phase_stepSide : (s.stepSide side step).phase
    = if ((s.direction side).step step).1.progress = .finished then .ended else s.phase := by
  cases side <;> rfl

lemma direction_stepSide :
    (s.stepSide side step).direction side = ((s.direction side).step step).1 := by
  cases side <;> rfl

variable {side} in
lemma direction_stepSide_of_ne {other : Side} (h : other ≠ side) :
    (s.stepSide other step).direction side = s.direction side := by
  cases other <;> cases side <;> first | rfl | exact absurd rfl h

end Sides

/-! ## Observations -/

def hookEvent? : Event → Option Teardown.Event
  | .hook e => some e
  | _ => none

def line? : Event → Option String
  | .log line => some line
  | _ => none

section Observations

variable {s s' : State} {es : List Event}

lemma hookEvents_eq_filterMap : s.hookEvents = s.events.filterMap hookEvent? := rfl

lemma lines_eq_filterMap : s.lines = s.events.filterMap line? := rfl

lemma hookEvents_of_append (h : s'.events = s.events ++ es) :
    s'.hookEvents = s.hookEvents ++ es.filterMap hookEvent? := by
  rw [hookEvents_eq_filterMap, hookEvents_eq_filterMap, h, List.filterMap_append]

lemma lines_of_append (h : s'.events = s.events ++ es) :
    s'.lines = s.lines ++ es.filterMap line? := by
  rw [lines_eq_filterMap, lines_eq_filterMap, h, List.filterMap_append]

lemma hookEvents_stepSide (s : State) (side : Side) (step : Step) :
    (s.stepSide side step).hookEvents = s.hookEvents := by
  rw [hookEvents_of_append (events_stepSide s side step), List.filterMap_map]
  cases side <;> simp [Side.event, hookEvent?, Function.comp_def]

lemma lines_stepSide (s : State) (side : Side) (step : Step) :
    (s.stepSide side step).lines = s.lines := by
  rw [lines_of_append (events_stepSide s side step), List.filterMap_map]
  cases side <;> simp [Side.event, line?, Function.comp_def]

lemma lines_stepHook (s : State) (m : Teardown.Move) : (s.stepHook m).lines = s.lines := by
  rw [lines_of_append rfl, List.filterMap_map]
  simp [line?, Function.comp_def]

end Observations

/-! ## Moves -/

/-- A move of a relay, as a case distinction. -/
inductive Goes (s : State) : Move → State → Prop where
  | side (side : Side) (step : Step) (hphase : s.phase = .copying) :
      Goes s (side.move step) (s.stepSide side step)
  | fire (hphase : s.phase = .ended) :
      Goes s .fire { s.stepHook .start with phase := .firing s.hook.runs.length }
  | report (run : Nat) (hphase : s.phase = .firing run) : Goes s .report (s.reportRun run)
  /-- The relay does not give its own run up. -/
  | hook (m : Teardown.Move) (hown : ∀ run, s.phase = .firing run → m ≠ .abandon run) :
      Goes s (.hook m) (s.stepHook m)
  /-- A relay that copies ignores no step of a direction, one that has ended runs the hook, and
  nothing keeps others from running it. -/
  | ignore (m : Move) (hcopying : s.phase = .copying → m = .fire ∨ m = .report)
      (hfire : s.phase = .ended → m ≠ .fire) (hstart : m ≠ .hook .start) : Goes s m s

lemma goes_step (s : State) (m : Move) : Goes s m (s.step m) := by
  unfold State.step
  split
  case h_1 step hphase => exact .side .outbound step hphase
  case h_2 step hphase => exact .side .inbound step hphase
  case h_3 hphase => exact .fire hphase
  case h_4 run hphase => exact .report run hphase
  case h_5 run other hphase =>
    split_ifs with hown
    · exact .ignore _ (fun hcopying => by simp [hphase] at hcopying) (by simp) (by simp)
    · refine .hook _ fun run' hphase' habandon => hown ?_
      obtain rfl := Teardown.Move.abandon.inj habandon
      exact (Phase.firing.inj (hphase.symm.trans hphase')).symm
  case h_6 m hother =>
    exact .hook m fun run hfiring habandon => hother run run hfiring habandon
  case h_7 m _ _ hhook hout hin hfire _ _ =>
    refine .ignore m (fun hcopying => ?_) (fun hended hm => hfire hended hm) fun hm => hhook _ hm
    cases m with
    | outbound step => exact (hout step hcopying rfl).elim
    | inbound step => exact (hin step hcopying rfl).elim
    | hook m => exact (hhook m rfl).elim
    | fire => exact .inl rfl
    | report => exact .inr rfl

section Moves

variable {s s' : State} {m : Move}

lemma run_concat (s : State) (moves : List Move) (m : Move) :
    s.run (moves ++ [m]) = (s.run moves).step m :=
  List.foldl_append

lemma run_append (s : State) (moves more : List Move) :
    s.run (moves ++ more) = (s.run moves).run more :=
  List.foldl_append

/-- The relay copies no more once it has stopped. -/
lemma Goes.copying (hgoes : Goes s m s') (h : s'.phase = .copying) : s.phase = .copying := by
  cases hgoes with
  | side _ _ hphase => exact hphase
  | fire => cases h
  | report run =>
      unfold State.reportRun at h
      split at h
      · cases h
      · cases h
      · exact h
  | hook => exact h
  | ignore => exact h

lemma Goes.closed (hgoes : Goes s m s') (h : s.phase = .closed) : s'.phase = .closed := by
  cases hgoes with
  | side _ _ hphase => simp [h] at hphase
  | fire hphase => simp [h] at hphase
  | report _ hphase => simp [h] at hphase
  | hook => exact h
  | ignore => exact h

lemma Goes.keepsEvents (hgoes : Goes s m s') : s.events <+: s'.events := by
  cases hgoes with
  | report run =>
      unfold State.reportRun
      split
      · exact List.prefix_append _ _
      · exact List.prefix_rfl
      · exact List.prefix_rfl
  | side side step =>
      rw [events_stepSide]
      exact List.prefix_append _ _
  | ignore => exact List.prefix_rfl
  | _ => exact List.prefix_append _ _

lemma events_prefix_run (s : State) (moves : List Move) : s.events <+: (s.run moves).events := by
  induction moves generalizing s with
  | nil => exact List.prefix_rfl
  | cons m moves ih => exact (goes_step s m).keepsEvents.trans (ih (s.step m))

lemma step_advance (s : State) (run : Nat) :
    s.step (.hook (.advance run)) = s.stepHook (.advance run) := by
  cases hphase : s.phase <;> simp [State.step, hphase]

lemma step_report {run : Nat} (hphase : s.phase = .firing run) :
    s.step .report = s.reportRun run := by
  simp [State.step, hphase]

end Moves

/-! ## The invariant -/

/-- What holds in all states of a relay. -/
structure Sound (s : State) : Prop where
  hook : Teardown.Reached s.hook
  /-- Nothing but the hook touches the process and the session. -/
  hookEvents_eq : s.hookEvents = s.hook.events
  silent : s.phase ≠ .closed → s.lines = []
  /-- The relay's run of the hook had the action and has returned, or it came too late. -/
  closed : s.phase = .closed → s.lines = [State.closedLine s.name] ∧ TornDown s.hook
    ∨ s.lines = [] ∧ ∃ run, run ≠ 0 ∧ s.hook.returned? run = some false

section Sound

variable {s : State}

/-- While a direction goes on, nothing is said and nothing happens to the hook. -/
lemma Sound.stepSide (h : Sound s) (hphase : s.phase = .copying) (side : Side) (step : Step) :
    Sound (s.stepSide side step) where
  hook := (hook_stepSide s side step).symm ▸ h.hook
  hookEvents_eq := by
    rw [hookEvents_stepSide, hook_stepSide]
    exact h.hookEvents_eq
  silent := by
    intro _
    rw [lines_stepSide]
    exact h.silent (by simp [hphase])
  closed := by
    intro hclosed
    rw [phase_stepSide, hphase] at hclosed
    split at hclosed <;> cases hclosed

/-- Something happens to the hook. -/
lemma Sound.stepHook (h : Sound s) (m : Teardown.Move) : Sound (s.stepHook m) := by
  obtain ⟨news, hnews⟩ := h.hook.events_prefix_step m
  have hdrop : (s.stepHook m).events = s.events ++ news.map .hook := by
    simp [State.stepHook, ← hnews]
  have hlines := lines_stepHook s m
  constructor
  case hook => exact h.hook.step m
  case hookEvents_eq =>
    rw [hookEvents_of_append hdrop, h.hookEvents_eq]
    simp [hookEvent?, List.filterMap_map, Function.comp_def, State.stepHook, ← hnews]
  case silent =>
    intro hphase
    rw [hlines]
    exact h.silent hphase
  case closed =>
    intro hphase
    rw [hlines]
    rcases h.closed hphase with ⟨hsaid, hdone⟩ | ⟨hsilent, run, hrun, hlate⟩
    · exact .inl ⟨hsaid, hdone.step h.hook m⟩
    · exact .inr ⟨hsilent, run, hrun, h.hook.returned?_step hlate m⟩

/-- The relay runs the hook. -/
lemma Sound.fire (h : Sound s) (hphase : s.phase = .ended) (run : Nat) :
    Sound { s.stepHook .start with phase := .firing run } := by
  have hstep := h.stepHook .start
  have hending : (s.stepHook .start).phase ≠ .closed := by simp [State.stepHook, hphase]
  exact ⟨hstep.hook, hstep.hookEvents_eq, fun _ => hstep.silent hending, fun hclosed => by
    simp at hclosed⟩

/-- The relay's run of the hook may have returned. -/
lemma Sound.reportRun (h : Sound s) (hphase : s.phase ≠ .closed) (run : Nat) :
    Sound (s.reportRun run) := by
  have hsettles := h.hook.settles
  have hsilent := h.silent hphase
  unfold State.reportRun
  cases hreturned : s.hook.returned? run with
  | none => exact h
  | some effect =>
      have hfirst := hsettles.effect_iff run effect hreturned
      cases effect with
      | true =>
          have hsaid : (State.lines { s with
              phase := .closed
              events := s.events ++ [.log (State.closedLine s.name)] })
              = [State.closedLine s.name] := by
            rw [lines_of_append rfl, hsilent]
            rfl
          obtain rfl : run = 0 := hfirst.mp rfl
          have hdone : TornDown s.hook := hsettles.tornDown_iff.mpr hreturned
          refine ⟨h.hook, ?_, fun hopen => absurd rfl hopen, fun _ => .inl ⟨hsaid, hdone⟩⟩
          rw [hookEvents_of_append rfl, h.hookEvents_eq]
          exact List.append_nil _
      | false =>
          have hrun : run ≠ 0 := fun hzero => by simpa using hfirst.mpr hzero
          exact ⟨h.hook, h.hookEvents_eq, fun hopen => absurd rfl hopen,
            fun _ => .inr ⟨hsilent, run, hrun, hreturned⟩⟩

/-- **Every move keeps a relay sound.** -/
lemma Goes.sound {m : Move} {s' : State} (hgoes : Goes s m s') (h : Sound s) : Sound s' := by
  cases hgoes with
  | side side step hphase => exact h.stepSide hphase side step
  | fire hphase => exact h.fire hphase _
  | report run hphase => exact h.reportRun (by simp [hphase]) run
  | hook m => exact h.stepHook m
  | ignore => exact h

lemma Sound.step (h : Sound s) (m : Move) : Sound (s.step m) :=
  (goes_step s m).sound h

end Sound

/-- A relay is sound whatever happens. -/
lemma sound_run (name : String) (moves : List Move) : Sound (State.run { name } moves) := by
  suffices hall : ∀ s, Sound s → Sound (s.run moves) from
    hall { name } ⟨.inl rfl, rfl, fun _ => rfl, fun hclosed => by simp at hclosed⟩
  induction moves with
  | nil => exact fun s h => h
  | cons m moves ih => exact fun s h => ih (s.step m) (h.step m)

/-! ## What a closed channel tells -/

/-- What a relay tells about its process and its session. -/
structure Closes (s : State) : Prop where
  /-- The runs of the hook, by the relay and by others, tell what runs of a hook tell. -/
  hook : Teardown.Settles s.hook
  hookEvents_eq : s.hookEvents = s.hook.events
  /-- The line about the end of the channel is written once, after the teardown. -/
  said : s.lines = [] ∨ s.lines = [State.closedLine s.name] ∧ s.phase = .closed
    ∧ TornDown s.hook
  /-- A channel that is closed without it has been closed by a run that came too late. -/
  silent : s.phase = .closed → s.lines = [] →
    ∃ run, run ≠ 0 ∧ s.hook.returned? run = some false
  /-- Such a run does not wait for the teardown, and neither does the relay, nor those who wait for
  the channel to be closed. -/
  unwaited : s.phase = .ended → s.hook.hasRun = true →
    (s.run [.fire, .report]).phase = .closed
      ∧ (s.run [.fire, .report]).hookEvents = s.hookEvents

section Closes

variable {s : State}

lemma Sound.closes (h : Sound s) : Closes s := by
  have hsettles := h.hook.settles
  constructor
  case hook => exact hsettles
  case hookEvents_eq => exact h.hookEvents_eq
  case said =>
    by_cases hphase : s.phase = .closed
    · rcases h.closed hphase with ⟨hsaid, hdone⟩ | ⟨hsilent, -⟩
      · exact .inr ⟨hsaid, hphase, hdone⟩
      · exact .inl hsilent
    · exact .inl (h.silent hphase)
  case silent =>
    intro hphase hsilent
    rcases h.closed hphase with ⟨hsaid, -⟩ | ⟨-, hlate⟩
    · simp [hsilent] at hsaid
    · exact hlate
  case unwaited =>
    intro hphase hran
    obtain ⟨hreturned, hsame⟩ := hsettles.tooLate hran
    have hfire : s.step .fire
        = { s.stepHook .start with phase := .firing s.hook.runs.length } := by
      simp [State.step, hphase]
    have hreport : s.run [.fire, .report] = { s.stepHook .start with phase := .closed } := by
      show (s.step .fire).step .report = _
      rw [hfire]
      have hlate : (s.stepHook .start).hook.returned? s.hook.runs.length = some false := hreturned
      simp [State.step, State.reportRun, hlate]
    have hnothing : (s.stepHook .start).events = s.events := by
      simp [State.stepHook, hsame]
    rw [hreport]
    exact ⟨rfl, congrArg (List.filterMap hookEvent?) hnothing⟩

/-- **What a closed channel tells.**  Whatever happens to a relay, the line about the end of its
channel means that the teardown is complete.  That the channel is closed does not: if somebody else
has run the hook before, the relay closes it at once. -/
theorem run_closes (name : String) (moves : List Move) : Closes (State.run { name } moves) :=
  (sound_run name moves).closes

/-- A relay that ends while somebody else's run ends the process. -/
def overtaken : State :=
  State.run { name := "agent" }
    (State.endSteps.map .outbound ++ [.hook .start, .fire, .report])

/-- Somebody else runs the hook while the relay's run ends the process. -/
def overtaking : State :=
  State.run { name := "agent" } (State.endSteps.map .outbound ++ [.fire, .hook .start])

/-- A run is given up, and somebody else runs the hook. -/
def givenUp : State :=
  State.run { name := "agent" } [.hook .start, .hook (.abandon 0), .hook .start]

/-- Neither a channel that is closed nor a run that has returned means that the teardown is
complete. -/
theorem closed_beforeTornDown :
    overtaken.phase = .closed ∧ overtaken.hookEvents = [.destroyStarts]
      ∧ overtaking.hook.returned? 1 = some false ∧ overtaking.hookEvents = [.destroyStarts]
      ∧ givenUp.hook.returned? 1 = some false ∧ givenUp.hookEvents = [.destroyStarts] := by
  decide

end Closes

end AgentLaunch.Relay
