import AgentLaunch.Attempt.Teardown
import Mathlib.Tactic.Common

/-!
# Runs of a close hook

The first run of a close hook has the action, and whatever happens to the process and the session
is done by that run.  All other runs come too late and return at once, so what they return says
nothing about how far the first one has got.

The parties run the hook at any time and are free to give a run up, as someone does who stops
waiting for it.  A list of moves is one way in which all of this interleaves.

* `Course` — how far the first run has got; `Course.state` is the whole state then.
* `Reached.step`, `reached_run` — whatever the parties do, the state is always one of these.
* `TornDown` — the process has been ended, and then the session closed.
* **`run_settles`** — what the runs of a hook return, and what that tells.
* **`run_firesOnce`** — if nobody gives a run up, the teardown is done once, by the first run.

A state with many runs is no more than the course of the first one and the number of the others:
each of these has returned, with nothing done.  So a move of the whole hook is a move of the first
run, or it adds a late one (`state_step`), and the rest is induction on the moves.  A first run ends
the process, then closes the session, then has returned; or it was given up on the way, and that can
never be made good.

`Settles` holds without any condition on the moves, and is therefore careful about what a run that
has returned can tell.  `FiresOnce` is the stronger statement for *patient* moves, in which nobody
gives a run up.
-/

namespace AgentLaunch.Teardown

namespace State

/-- The state after some moves. -/
def run (s : State) (moves : List Move) : State :=
  moves.foldl step s

end State

/-! ## The states of a hook -/

/-- How far the run that has the action has got. -/
inductive Course where
  | destroying
  | closing
  | finished
  /-- It was given up, while it ended the process or, if so marked, while it closed the session. -/
  | lost (closing : Bool)
  deriving DecidableEq, Repr

namespace Course

def first : Course → RunState
  | destroying => .destroying
  | closing => .closing
  | finished => .returned true
  | lost _ => .abandoned

def events : Course → List Event
  | destroying => [.destroyStarts]
  | closing => [.destroyStarts, .destroyEnds, .closeStarts]
  | finished => [.destroyStarts, .destroyEnds, .closeStarts, .closeEnds]
  | lost false => [.destroyStarts]
  | lost true => [.destroyStarts, .destroyEnds, .closeStarts]

/-- A hook whose first run has got so far, after some more runs. -/
def state (c : Course) (late : Nat) : State where
  taken := true
  runs := c.first :: List.replicate late (.returned false)
  events := c.events

/-- What a move does to the first run. -/
def step : Course → Move → Course
  | destroying, .advance 0 => closing
  | closing, .advance 0 => finished
  | destroying, .abandon 0 => lost false
  | closing, .abandon 0 => lost true
  | c, _ => c

end Course

/-- The states that a hook can be in. -/
def Reached (s : State) : Prop :=
  s = {} ∨ ∃ c late, s = Course.state c late

section Reached

variable {c : Course} {late : Nat} {s : State}

/-- All later runs have returned without an effect. -/
lemma state_runs_succ (run : Nat) :
    (c.state late).runs[run + 1]? = if run < late then some (.returned false) else none := by
  simp [Course.state, List.getElem?_replicate]

lemma state_start : (c.state late).start = c.state (late + 1) := by
  simp [State.start, Course.state, List.replicate_succ']

lemma state_advance_succ (run : Nat) : (c.state late).advance (run + 1) = c.state late := by
  unfold State.advance
  rw [state_runs_succ]
  by_cases hrun : run < late <;> simp [hrun]

lemma state_abandon_succ (run : Nat) : (c.state late).abandon (run + 1) = c.state late := by
  unfold State.abandon
  rw [state_runs_succ]
  by_cases hrun : run < late <;> simp [hrun]

/-- **A move of the hook is a move of its first run**, or one more run that comes too late. -/
lemma state_step (c : Course) (late : Nat) (m : Move) :
    (c.state late).step m = (c.step m).state (late + [m].count .start) := by
  cases m with
  | start => rcases c with _ | _ | _ | _ | _ <;> exact state_start
  | advance run =>
      cases run with
      | zero => rcases c with _ | _ | _ | _ | _ <;> rfl
      | succ run => rcases c with _ | _ | _ | _ | _ <;> exact state_advance_succ run
  | abandon run =>
      cases run with
      | zero => rcases c with _ | _ | _ | _ | _ <;> rfl
      | succ run => rcases c with _ | _ | _ | _ | _ <;> exact state_abandon_succ run

/-- A run of moves, from a hook that has been taken on. -/
lemma state_run (c : Course) (late : Nat) (moves : List Move) :
    (c.state late).run moves = (moves.foldl Course.step c).state (late + moves.count .start) := by
  induction moves generalizing c late with
  | nil => rfl
  | cons m moves ih =>
      have hcount : ([m] ++ moves).count .start = [m].count .start + moves.count .start :=
        List.count_append
      show ((c.state late).step m).run moves = _
      rw [state_step, ih, Nat.add_assoc, ← hcount]
      rfl

lemma Reached.step (h : Reached s) (m : Move) : Reached (s.step m) := by
  rcases h with rfl | ⟨c, late, rfl⟩
  · cases m with
    | start => exact .inr ⟨.destroying, 0, rfl⟩
    | advance run => exact .inl rfl
    | abandon run => exact .inl rfl
  · exact .inr ⟨c.step m, _, state_step c late m⟩

/-- **Whatever the parties do, the hook is in one of these states.** -/
lemma reached_run (moves : List Move) : Reached (State.run {} moves) := by
  suffices hall : ∀ s, Reached s → Reached (s.run moves) from hall {} (.inl rfl)
  induction moves with
  | nil => exact fun s h => h
  | cons m moves ih => exact fun s h => ih (s.step m) (h.step m)

end Reached

/-! ## What a run tells that has returned -/

/-- The process has been ended, and then the session closed. -/
def TornDown (s : State) : Prop :=
  s.events = [.destroyStarts, .destroyEnds, .closeStarts, .closeEnds]

instance (s : State) : Decidable (TornDown s) :=
  inferInstanceAs (Decidable (s.events = _))

/-- What the runs of a hook return, and what that tells. -/
structure Settles (s : State) : Prop where
  /-- Only the first run has an effect. -/
  effect_iff : ∀ run effect, s.returned? run = some effect → (effect = true ↔ run = 0)
  /-- All is done as soon as the first run has returned, and not before. -/
  tornDown_iff : TornDown s ↔ s.returned? 0 = some true
  /-- If the hook has run, one more run returns at once, whatever the first one is doing. -/
  tooLate : s.hasRun = true →
    (s.step .start).returned? s.runs.length = some false ∧ (s.step .start).events = s.events
  /-- The first run can go on to its end, unless it was given up. -/
  completes : s.hasRun = true → s.runs[0]? ≠ some .abandoned →
    TornDown (s.run [.advance 0, .advance 0])
  /-- If it was given up, nobody ever does the rest. -/
  lost : s.runs[0]? = some .abandoned → ∀ moves, ¬ TornDown (s.run moves)

section Settles

variable {c : Course} {late : Nat} {s : State}

lemma tornDown_state_iff : TornDown (c.state late) ↔ c = .finished := by
  rcases c with _ | _ | _ | _ | _ <;> simp [TornDown, Course.state, Course.events]

lemma state_returned?_zero :
    (c.state late).returned? 0 = if c = .finished then some true else none := by
  rcases c with _ | _ | _ | _ <;> rfl

lemma state_returned?_succ (run : Nat) :
    (c.state late).returned? (run + 1) = if run < late then some false else none := by
  unfold State.returned?
  rw [state_runs_succ]
  by_cases hrun : run < late <;> simp [hrun]

/-- A first run that was given up stays so. -/
lemma foldl_step_lost (closing : Bool) (moves : List Move) :
    moves.foldl Course.step (.lost closing) = .lost closing := by
  induction moves with
  | nil => rfl
  | cons m moves ih =>
      rw [List.foldl_cons]
      exact ih

/-- Only giving it up loses a first run. -/
lemma eq_lost_of_step {m : Move} {closing : Bool} (hm : m ≠ .abandon 0)
    (h : c.step m = .lost closing) : c = .lost closing := by
  unfold Course.step at h
  split at h
  case h_3 => exact absurd rfl hm
  case h_4 => exact absurd rfl hm
  case h_5 => exact h
  all_goals cases h

lemma eq_lost_of_abandoned (h : (c.state late).runs[0]? = some .abandoned) :
    ∃ closing, c = .lost closing := by
  rcases c with _ | _ | _ | closing
  case lost => exact ⟨closing, rfl⟩
  all_goals simp [Course.state, Course.first] at h

lemma Reached.settles (h : Reached s) : Settles s := by
  rcases h with rfl | ⟨c, late, rfl⟩
  · exact ⟨by simp [State.returned?], by decide, by simp [State.hasRun], by simp [State.hasRun],
      by simp⟩
  constructor
  case effect_iff =>
    intro run effect hreturned
    cases run with
    | zero =>
        rw [state_returned?_zero, Option.ite_none_right_eq_some] at hreturned
        simp [← Option.some.inj hreturned.2]
    | succ run =>
        rw [state_returned?_succ, Option.ite_none_right_eq_some] at hreturned
        simp [← Option.some.inj hreturned.2]
  case tornDown_iff =>
    rw [tornDown_state_iff, state_returned?_zero, Option.ite_none_right_eq_some]
    simp
  case tooLate =>
    intro _
    have hlength : (c.state late).runs.length = late + 1 := by simp [Course.state]
    have hstart : (c.state late).step .start = c.state (late + 1) := state_start
    rw [hstart, hlength, state_returned?_succ, if_pos (Nat.lt_succ_self late)]
    exact ⟨rfl, rfl⟩
  case completes =>
    intro _ hfirst
    rw [state_run, tornDown_state_iff]
    rcases c with _ | _ | _ | _
    case lost => exact absurd rfl hfirst
    all_goals rfl
  case lost =>
    intro hfirst moves
    obtain ⟨closing, rfl⟩ := eq_lost_of_abandoned hfirst
    rw [state_run, tornDown_state_iff, foldl_step_lost]
    simp

/-- Whoever does it, the process is ended once, and after that the session is closed once. -/
lemma Reached.inOrder (h : Reached s) :
    s.events <+: [.destroyStarts, .destroyEnds, .closeStarts, .closeEnds] := by
  rcases h with rfl | ⟨c, late, rfl⟩
  · exact List.nil_prefix
  · show c.events <+: _
    rcases c with _ | _ | _ | _ | _ <;> decide

/-! ## What later moves leave alone -/

/-- What has been done to the process and the session stays done. -/
lemma Reached.events_prefix_step (h : Reached s) (m : Move) : s.events <+: (s.step m).events := by
  rcases h with rfl | ⟨c, late, rfl⟩
  · exact List.nil_prefix
  · have hcourse : c.events <+: (c.step m).events := by
      unfold Course.step
      split
      case h_5 => exact List.prefix_rfl
      all_goals decide
    rw [state_step]
    exact hcourse

lemma TornDown.step (h : Reached s) (hdone : TornDown s) (m : Move) : TornDown (s.step m) := by
  rcases h with rfl | ⟨c, late, rfl⟩
  · cases hdone
  · obtain rfl := tornDown_state_iff.mp hdone
    rw [state_step, tornDown_state_iff]
    rfl

/-- A run that has returned too late stays so. -/
lemma Reached.returned?_step (h : Reached s) {run : Nat} (hlate : s.returned? run = some false)
    (m : Move) : (s.step m).returned? run = some false := by
  rcases h with rfl | ⟨c, late, rfl⟩
  · simp [State.returned?] at hlate
  · cases run with
    | zero => simp [state_returned?_zero] at hlate
    | succ run =>
        have hrun : run < late := by simpa [state_returned?_succ] using hlate
        rw [state_step, state_returned?_succ, if_pos (Nat.lt_add_right _ hrun)]

lemma Reached.hasRun_step_iff (h : Reached s) (m : Move) :
    (s.step m).hasRun = true ↔ s.hasRun = true ∨ m = .start := by
  rcases h with rfl | ⟨c, late, rfl⟩
  · cases m <;> simp [State.step, State.start, State.advance, State.abandon, State.hasRun]
  · rw [state_step]
    exact iff_of_true rfl (.inl rfl)

lemma Reached.eq_of_not_hasRun (h : Reached s) (hrun : s.hasRun = false) : s = {} := by
  rcases h with rfl | ⟨c, late, rfl⟩
  · rfl
  · cases hrun

/-- Only the first run can have the action, so a run that starts after it does not. -/
lemma Reached.length_ne_zero (h : Reached s) (hrun : s.hasRun = true) : s.runs.length ≠ 0 := by
  rcases h with rfl | ⟨c, late, rfl⟩
  · cases hrun
  · exact Nat.succ_ne_zero _

lemma Reached.first_ne_abandoned (h : Reached s) (hfirst : s.runs[0]? ≠ some .abandoned) {m : Move}
    (hm : m ≠ .abandon 0) : (s.step m).runs[0]? ≠ some .abandoned := by
  rcases h with rfl | ⟨c, late, rfl⟩
  · cases m <;> simp [State.step, State.start, State.advance, State.abandon]
  · rw [state_step]
    intro habandoned
    obtain ⟨closing, hlost⟩ := eq_lost_of_abandoned habandoned
    exact hfirst (eq_lost_of_step hm hlost ▸ rfl)

/-- **What the runs of a hook tell.**  Whatever the parties do, the teardown is complete as soon as
the first run has returned, and only then; all other runs return at once, and a first run that was
given up leaves it undone. -/
theorem run_settles (moves : List Move) : Settles (State.run {} moves) :=
  (reached_run moves).settles

end Settles

/-! ## Runs that nobody gives up -/

/-- Nobody gives a run up. -/
def Patient (moves : List Move) : Prop :=
  ∀ run, .abandon run ∉ moves

/-- How a hook fires after some moves if nobody gives a run up. -/
structure FiresOnce (moves : List Move) (s : State) : Prop where
  /-- Every call of the hook is a run of its own. -/
  runs_length : s.runs.length = moves.count .start
  /-- The hook has run as soon as a first run has taken the action. -/
  hasRun_iff : s.hasRun = true ↔ .start ∈ moves
  /-- From then on it has, whatever happens. -/
  hasRun_stays : s.hasRun = true → ∀ later, (s.run later).hasRun = true
  /-- The process is ended once, and after that the session is closed once. -/
  inOrder : s.events <+: [.destroyStarts, .destroyEnds, .closeStarts, .closeEnds]
  begun : .start ∈ moves → .destroyStarts ∈ s.events
  /-- A run with an effect returns after the session is closed, and no other run has one. -/
  waits : ∀ run, s.returned? run = some true ↔ run = 0 ∧ TornDown s
  /-- The others return at once. -/
  late : ∀ run, run ≠ 0 → run < s.runs.length → s.returned? run = some false
  /-- When all runs have returned, one of them had an effect. -/
  once : .start ∈ moves → (∀ run < s.runs.length, s.returned? run ≠ none) →
    TornDown s ∧ ∃! run, s.returned? run = some true
  /-- They can all return. -/
  completes : .start ∈ moves → ∀ run < s.runs.length,
    (s.run [.advance 0, .advance 0]).returned? run = some (run == 0)

section FiresOnce

variable {c : Course} {moves : List Move}

/-- A first run that has not been given up is not given up by others' moves. -/
lemma foldl_step_ne_lost (hpatient : Patient moves) (hc : ∀ closing, c ≠ .lost closing) :
    ∀ closing, moves.foldl Course.step c ≠ .lost closing := by
  induction moves generalizing c with
  | nil => exact hc
  | cons m moves ih =>
      have hm : m ≠ .abandon 0 := fun habandon => hpatient 0 (habandon ▸ List.mem_cons_self)
      have hrest : Patient moves := fun run hrun => hpatient run (List.mem_cons_of_mem m hrun)
      exact ih hrest fun closing hlost => hc closing (eq_lost_of_step hm hlost)

/-- **Either nobody has run the hook, or its first run is on its way.** -/
lemma patient_run (hpatient : Patient moves) :
    (.start ∉ moves ∧ State.run {} moves = {})
      ∨ .start ∈ moves ∧ ∃ c late, (∀ closing, c ≠ .lost closing)
        ∧ late + 1 = moves.count .start ∧ State.run {} moves = Course.state c late := by
  induction moves with
  | nil => exact .inl ⟨List.not_mem_nil, rfl⟩
  | cons m moves ih =>
      have hrest : Patient moves := fun run hrun => hpatient run (List.mem_cons_of_mem m hrun)
      cases m with
      | start =>
          have hfirst : ∀ closing, Course.destroying ≠ .lost closing := by simp
          refine .inr ⟨List.mem_cons_self, _, _, foldl_step_ne_lost hrest hfirst, ?_,
            state_run .destroying 0 moves⟩
          rw [List.count_cons_self, Nat.zero_add]
      | advance run =>
          have hcount : (Move.advance run :: moves).count .start = moves.count .start :=
            List.count_cons_of_ne (by simp)
          have hmem : .start ∈ Move.advance run :: moves ↔ .start ∈ moves := by simp
          rw [hcount, hmem]
          exact ih hrest
      | abandon run => exact absurd List.mem_cons_self (hpatient run)

/-- After its first run has taken the action, a hook fires once. -/
lemma firesOnce_state (hc : ∀ closing, c ≠ .lost closing) {late : Nat}
    (hstart : .start ∈ moves) (hcount : late + 1 = moves.count .start) :
    FiresOnce moves (c.state late) := by
  have hlength : (c.state late).runs.length = late + 1 := by simp [Course.state]
  have hlate (c : Course) : ∀ run, run ≠ 0 → run < late + 1 →
      (c.state late).returned? run = some false := by
    intro run hrun hlt
    obtain ⟨run, rfl⟩ := Nat.exists_eq_succ_of_ne_zero hrun
    rw [state_returned?_succ, if_pos (Nat.lt_of_succ_lt_succ hlt)]
  have hwaits : ∀ run, (c.state late).returned? run = some true
      ↔ run = 0 ∧ TornDown (c.state late) := by
    intro run
    rw [tornDown_state_iff]
    cases run with
    | zero => simp [state_returned?_zero]
    | succ run => simp [state_returned?_succ]
  constructor
  case runs_length => exact hlength.trans hcount
  case hasRun_iff => exact iff_of_true rfl hstart
  case hasRun_stays =>
    intro _ later
    rw [state_run]
    rfl
  case inOrder => exact Reached.inOrder (.inr ⟨c, late, rfl⟩)
  case begun =>
    intro _
    show _ ∈ c.events
    rcases c with _ | _ | _ | _ | _ <;> decide
  case waits => exact hwaits
  case late =>
    intro run hrun hlt
    exact hlate c run hrun (hlength ▸ hlt)
  case once =>
    intro _ hreturned
    have hfirst : (c.state late).returned? 0 ≠ none := hreturned 0 (by omega)
    rw [state_returned?_zero, ne_eq, ite_eq_right_iff, not_forall] at hfirst
    have hdone : TornDown (c.state late) := tornDown_state_iff.mpr hfirst.1
    exact ⟨hdone, 0, (hwaits 0).mpr ⟨rfl, hdone⟩, fun run hrun => ((hwaits run).mp hrun).1⟩
  case completes =>
    intro _ run hlt
    have hfinished : [Move.advance 0, .advance 0].foldl Course.step c = .finished := by
      rcases c with _ | _ | _ | closing
      case lost => exact absurd rfl (hc closing)
      all_goals rfl
    rw [state_run, hfinished]
    by_cases hrun : run = 0
    · subst hrun
      exact state_returned?_zero
    · rw [beq_false_of_ne hrun]
      exact hlate .finished run hrun (hlength ▸ hlt)

/-- **A hook fires once.**  However many parties run it, and in whichever order things happen, the
first run has the action, performs it from the beginning to the end and returns then; the others
return without an effect. -/
theorem run_firesOnce (hpatient : Patient moves) : FiresOnce moves (State.run {} moves) := by
  rcases patient_run hpatient with ⟨hnone, hrun⟩ | ⟨hstart, c, late, hc, hcount, hrun⟩
  · rw [hrun]
    exact {
      runs_length := (List.count_eq_zero.mpr hnone).symm
      hasRun_iff := iff_of_false (by decide) hnone
      hasRun_stays := by simp [State.hasRun]
      inOrder := List.nil_prefix
      begun := fun hstart => absurd hstart hnone
      waits := by simp [State.returned?, TornDown]
      late := by simp
      once := fun hstart => absurd hstart hnone
      completes := fun hstart => absurd hstart hnone }
  · rw [hrun]
    exact firesOnce_state hc hstart hcount

/-- Three parties run the hook, at different points of the teardown. -/
theorem run_firesOnce_threeParties :
    Patient [.start, .start, .advance 0, .start, .advance 0]
      ∧ FiresOnce [.start, .start, .advance 0, .start, .advance 0]
        (State.run {} [.start, .start, .advance 0, .start, .advance 0]) :=
  ⟨fun _ => by simp, run_firesOnce fun _ => by simp⟩

end FiresOnce

end AgentLaunch.Teardown
