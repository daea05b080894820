import Mathlib.Data.List.TakeWhile
import AgentLaunch.Proofs.Channel.Relay

/-!
# The two directions of a relay

A direction takes bytes from its source, writes them to its target in the same order, and pushes
out what it has written when it ends.  It ignores steps after it has ended, and so does the relay
for both of its directions.

* `output` — what a source gives until it ends.
* `Direction.Takes` — a step as a case distinction; `Tidy`, `Follows` and `Abreast` tell how a
  direction stands to the steps so far.
* `Acts` — what a move of the relay does to either side.

Whether a direction still hears its source depends on the relay as a whole, since the other
direction may have ended the channel.  Two relations to the steps of the source keep this apart.  A
direction is `Abreast` of them if it has copied all the time, and then it has read everything that
the source has given.  In general it only `Follows` them: it may have ignored some, and what it has
read is a beginning of what was given.  A step keeps the first as long as the direction copies, and
the second in any case.

`Acts` reduces a move of the relay to what it means for one side: a step of this side, or nothing.
With it a fact about a relay is proved for one side at a time, and both sides share the proof.
-/

namespace AgentLaunch.Relay

/-! ## One direction -/

namespace Step

/-- What the source gives in a step. -/
def given : Step → Bytes
  | .read bytes => bytes
  | _ => []

end Step

/-- What a source gives until it ends. -/
def output (steps : List Step) : Bytes :=
  (steps.takeWhile (· ≠ .sourceEnds)).flatMap Step.given

section Output

variable {steps : List Step}

lemma output_append_of_ended (h : .sourceEnds ∈ steps) (more : List Step) :
    output (steps ++ more) = output steps := by
  induction steps with
  | nil => cases h
  | cons step steps ih =>
      by_cases hstep : step = .sourceEnds
      · subst hstep
        rfl
      · have hrest : .sourceEnds ∈ steps := (List.mem_cons.mp h).resolve_left (Ne.symm hstep)
        simpa [output, hstep] using ih hrest

lemma output_append_of_going (h : .sourceEnds ∉ steps) (more : List Step) :
    output (steps ++ more) = output steps ++ output more := by
  have hgoing : ∀ step ∈ steps, decide (step ≠ .sourceEnds) = true :=
    fun step hmem => decide_eq_true fun hstep => h (hstep ▸ hmem)
  have hself : output steps = steps.flatMap Step.given :=
    congrArg (List.flatMap Step.given) (List.takeWhile_eq_self_iff.mpr hgoing)
  rw [hself]
  unfold output
  rw [List.takeWhile_append_of_pos hgoing, List.flatMap_append]

lemma output_prefix_append (steps more : List Step) : output steps <+: output (steps ++ more) := by
  by_cases h : .sourceEnds ∈ steps
  · simp [output_append_of_ended h]
  · rw [output_append_of_going h]
    exact List.prefix_append _ _

end Output

namespace Effect

def bytes : Effect → Bytes
  | .wrote bytes => bytes
  | .pushed => []

end Effect

namespace Direction

/-- What has been written. -/
def sent (d : Direction) : Bytes :=
  d.read.take d.written

/-- A step of a direction, as a case distinction. -/
inductive Takes (d : Direction) : Step → Direction × List Effect → Prop where
  | read (bytes : Bytes) (hcopying : d.progress = .copying) (hgoing : d.sourceEnded ≠ true) :
      Takes d (.read bytes) ({ d with read := d.read ++ bytes }, [])
  | write (limit : Nat) (hcopying : d.progress = .copying) :
      Takes d (.write limit) ({ d with written := d.written + (d.backlog.take limit).length },
        [.wrote (d.backlog.take limit)])
  | sourceEnds (hcopying : d.progress = .copying) :
      Takes d .sourceEnds ({ d with sourceEnded := true }, [])
  | fail (hcopying : d.progress = .copying) : Takes d .fail ({ d with progress := .finishing }, [])
  | complete (hcopying : d.progress = .copying) (hended : d.sourceEnded = true)
      (hnothing : d.backlog = []) :
      Takes d .complete ({ d with progress := .finishing, complete := true }, [])
  | finish (hfinishing : d.progress = .finishing) :
      Takes d .finish ({ d with progress := .finished }, [.pushed])
  /-- A direction that copies ignores what comes after the end of its source. -/
  | ignore (s : Step) (hended : d.progress = .copying →
      s ≠ .sourceEnds ∧ s ≠ .fail ∧ (s.given = [] ∨ d.sourceEnded = true)) :
      Takes d s (d, [])

lemma takes_step (d : Direction) (s : Step) : d.Takes s (d.step s) := by
  unfold Direction.step
  split
  case h_1 bytes hcopying =>
    split_ifs with hended
    · exact .ignore _ fun _ => ⟨by simp, by simp, .inr hended⟩
    · exact .read bytes hcopying hended
  case h_2 limit hcopying => exact .write limit hcopying
  case h_3 hcopying => exact .sourceEnds hcopying
  case h_4 hcopying => exact .fail hcopying
  case h_5 hcopying =>
    split_ifs with hdone
    · exact .complete hcopying hdone.1 hdone.2
    · exact .ignore _ fun _ => ⟨by simp, by simp, .inl rfl⟩
  case h_6 hfinishing => exact .finish hfinishing
  case h_7 s _ _ hread hwrite hends hfail hcomplete hfinish =>
    refine .ignore _ fun hcopying => ⟨hends hcopying, hfail hcopying, ?_⟩
    cases s with
    | read bytes => exact (hread bytes hcopying rfl).elim
    | _ => exact .inl rfl

/-- What holds of a direction whatever its steps are. -/
structure Tidy (d : Direction) : Prop where
  written_le : d.written ≤ d.read.length
  complete : d.complete = true → d.sourceEnded = true ∧ d.read.length ≤ d.written

/-- How a direction stands to some steps of which it may have ignored a few. -/
structure Follows (d : Direction) (steps : List Step) : Prop where
  reads : d.read <+: output steps
  ended : d.sourceEnded = true → .sourceEnds ∈ steps ∧ d.read = output steps

/-- How it stands to them if it has copied all the time. -/
structure Abreast (d : Direction) (steps : List Step) : Prop where
  read_eq : d.read = output steps
  ended_iff : d.sourceEnded = true ↔ .sourceEnds ∈ steps

section Steps

variable {d : Direction} {steps : List Step} {s : Step} {next : Direction × List Effect}

lemma output_concat_of_silent (hgiven : s.given = []) :
    output (steps ++ [s]) = output steps := by
  by_cases h : .sourceEnds ∈ steps
  · exact output_append_of_ended h [s]
  · rw [output_append_of_going h]
    by_cases hs : s = .sourceEnds <;> simp [output, hs, hgiven]

lemma Abreast.follows (h : d.Abreast steps) : d.Follows steps where
  reads := h.read_eq ▸ List.prefix_rfl
  ended hended := ⟨h.ended_iff.mp hended, h.read_eq⟩

/-- A direction follows steps that it ignores. -/
lemma Follows.ignore (h : d.Follows steps) (s : Step) : d.Follows (steps ++ [s]) where
  reads := h.reads.trans (output_prefix_append steps [s])
  ended := by
    intro hends
    obtain ⟨hmem, heq⟩ := h.ended hends
    exact ⟨List.mem_append_left _ hmem, heq.trans (output_append_of_ended hmem [s]).symm⟩

/-- **A direction that copies ignores nothing.** -/
lemma Takes.abreast (hstep : d.Takes s next) (h : d.Abreast steps)
    (hcopying : d.progress = .copying) : next.1.Abreast (steps ++ [s]) := by
  have hsilent : s.given = [] → d.read = output (steps ++ [s]) :=
    fun hgiven => h.read_eq.trans (output_concat_of_silent hgiven).symm
  cases hstep with
  | read bytes _ hgoing =>
      have hmem : .sourceEnds ∉ steps := fun hmem => hgoing (h.ended_iff.mpr hmem)
      refine ⟨?_, by simpa using h.ended_iff⟩
      show d.read ++ bytes = _
      rw [output_append_of_going hmem, h.read_eq]
      simp [output, Step.given]
  | sourceEnds => exact ⟨hsilent rfl, by simp⟩
  | ignore _ hended =>
      obtain ⟨hends, -, hgiven⟩ := hended hcopying
      refine ⟨?_, by simpa [Ne.symm hends] using h.ended_iff⟩
      rcases hgiven with hgiven | hdone
      · exact hsilent hgiven
      · exact h.read_eq.trans (output_append_of_ended (h.ended_iff.mp hdone) [s]).symm
  | _ => exact ⟨hsilent rfl, by simpa using h.ended_iff⟩

/-- A direction that does not copy follows what it ignores. -/
lemma Takes.follows (hstep : d.Takes s next) (h : d.Follows steps)
    (hcopying : d.progress ≠ .copying) : next.1.Follows (steps ++ [s]) := by
  cases hstep with
  | finish => exact ⟨(h.ignore .finish).reads, (h.ignore .finish).ended⟩
  | ignore => exact h.ignore s
  | _ => contradiction

lemma Takes.tidy (hstep : d.Takes s next) (h : d.Tidy) : next.1.Tidy := by
  cases hstep with
  | read bytes _ hgoing =>
      refine ⟨?_, fun hcomplete => absurd (h.complete hcomplete).1 hgoing⟩
      exact Nat.le_trans h.written_le (List.length_append ▸ Nat.le_add_right _ _)
  | write limit =>
      have hpiece : (d.backlog.take limit).length ≤ d.read.length - d.written :=
        Nat.le_trans (List.length_take_le' limit d.backlog) (Nat.le_of_eq List.length_drop)
      refine ⟨Nat.add_le_of_le_sub' h.written_le hpiece, fun hcomplete => ?_⟩
      obtain ⟨hended, hall⟩ := h.complete hcomplete
      exact ⟨hended, Nat.le_trans hall (Nat.le_add_right _ _)⟩
  | sourceEnds => exact ⟨h.written_le, fun hcomplete => ⟨rfl, (h.complete hcomplete).2⟩⟩
  | complete _ hended hnothing =>
      exact ⟨h.written_le, fun _ => ⟨hended, List.drop_eq_nil_iff.mp hnothing⟩⟩
  | _ => exact ⟨h.written_le, h.complete⟩

/-- What a step does to the target is what it adds to what has been sent. -/
lemma Takes.sent_eq (hstep : d.Takes s next) (h : d.Tidy) :
    next.1.sent = d.sent ++ next.2.flatMap Effect.bytes := by
  cases hstep with
  | read bytes =>
      show (d.read ++ bytes).take d.written = _
      rw [List.take_append_of_le_length h.written_le]
      exact (List.append_nil _).symm
  | write limit =>
      have hpiece : d.backlog.take (d.backlog.take limit).length = d.backlog.take limit := by
        rw [List.length_take, ← List.take_take, List.take_length]
      show d.read.take (d.written + (d.backlog.take limit).length) = d.sent ++ (_ ++ [])
      rw [List.take_add, List.append_nil]
      exact congrArg (d.sent ++ ·) hpiece
  | _ => exact (List.append_nil _).symm

/-- A direction stops copying when all is copied, or by a failure. -/
lemma Takes.complete_or_fail (hstep : d.Takes s next) (hstopped : next.1.progress ≠ .copying) :
    next.1.complete = true ∨ d.progress ≠ .copying ∧ next.1.complete = d.complete
      ∨ d.progress = .copying ∧ s = .fail := by
  cases hstep with
  | fail hcopying => exact .inr (.inr ⟨hcopying, rfl⟩)
  | complete => exact .inl rfl
  | finish hfinishing => exact .inr (.inl ⟨by simp [hfinishing], rfl⟩)
  | _ => exact .inr (.inl ⟨hstopped, rfl⟩)

lemma Takes.copying (hstep : d.Takes s next) (h : next.1.progress = .copying) :
    d.progress = .copying := by
  cases hstep with
  | ignore => exact h
  | finish => cases h
  | _ => assumption

lemma Takes.pushed (hstep : d.Takes s next) (hd : d.progress ≠ .finished)
    (hfinished : next.1.progress = .finished) : next.2 = [.pushed] := by
  cases hstep with
  | finish => rfl
  | fail => cases hfinished
  | complete => cases hfinished
  | _ => contradiction

end Steps

end Direction

/-! ## Both directions -/

namespace Side

def step? : Side → Move → Option Step
  | .outbound, .outbound s => some s
  | .inbound, .inbound s => some s
  | _, _ => none

def effect? : Side → Event → Option Effect
  | .outbound, .outbound e => some e
  | .inbound, .inbound e => some e
  | _, _ => none

lemma step?_move (side : Side) (step : Step) : side.step? (side.move step) = some step := by
  cases side <;> rfl

lemma step?_move_of_ne {side other : Side} (h : other ≠ side) (step : Step) :
    side.step? (other.move step) = none := by
  cases other <;> cases side <;> first | rfl | exact absurd rfl h

/-- The events of a side are its effects, -/
lemma effects_event (side : Side) (es : List Effect) :
    (es.map side.event).filterMap side.effect? = es := by
  have hown : side.effect? ∘ side.event = some := by cases side <;> rfl
  rw [List.filterMap_map, hown, List.filterMap_some]

/-- and none of the other side's. -/
lemma effects_event_of_ne {side other : Side} (h : other ≠ side) (es : List Effect) :
    (es.map other.event).filterMap side.effect? = [] := by
  have hother : ∀ x ∈ es.map other.event, side.effect? x = none := by
    intro x hx
    obtain ⟨e, -, rfl⟩ := List.mem_map.mp hx
    cases other <;> cases side <;> first | rfl | exact absurd rfl h
  exact List.filterMap_eq_nil_iff.mpr hother

end Side

/-- What the source of a side gives until it ends. -/
def offered (side : Side) (moves : List Move) : Bytes :=
  output (moves.filterMap side.step?)

namespace State

def effects (s : State) (side : Side) : List Effect :=
  s.events.filterMap side.effect?

/-- What the target of a side gets. -/
def delivered (s : State) (side : Side) : Bytes :=
  (s.effects side).flatMap Effect.bytes

end State

section Sides

variable {s s' : State} {side : Side} {m : Move} {es : List Event}

lemma toController_eq_delivered (s : State) : s.toController = s.delivered .outbound := by
  show s.events.flatMap _ = (s.events.filterMap _).flatMap _
  induction s.events with
  | nil => rfl
  | cons e es ih =>
      rw [List.flatMap_cons, ih]
      rcases e with (_ | _) | _ | _ | _ <;> rfl

lemma toAgent_eq_delivered (s : State) : s.toAgent = s.delivered .inbound := by
  show s.events.flatMap _ = (s.events.filterMap _).flatMap _
  induction s.events with
  | nil => rfl
  | cons e es ih =>
      rw [List.flatMap_cons, ih]
      rcases e with _ | (_ | _) | _ | _ <;> rfl

lemma effects_of_append (h : s'.events = s.events ++ es) :
    s'.effects side = s.effects side ++ es.filterMap side.effect? := by
  show s'.events.filterMap _ = _
  rw [h, List.filterMap_append]
  rfl

/-- What a move does to one of the sides. -/
inductive Acts (side : Side) (s : State) (m : Move) (s' : State) : Prop where
  | takes (step : Step) (es : List Effect) (hcopying : s.phase = .copying)
      (hm : side.step? m = some step)
      (htakes : (s.direction side).Takes step (s'.direction side, es))
      (heffects : s'.effects side = s.effects side ++ es)
      (hphase : (s'.direction side).progress = .finished → s'.phase ≠ .copying)
  | spares (hm : s.phase = .copying → side.step? m = none)
      (hdirection : s'.direction side = s.direction side)
      (heffects : s'.effects side = s.effects side)

lemma effects_stepHook (m : Teardown.Move) : (s.stepHook m).effects side = s.effects side := by
  have hsilent : ((s.hook.step m).events.drop s.hook.events.length).filterMap
      (side.effect? ∘ Event.hook) = [] := by
    cases side <;> simp [Side.effect?, Function.comp_def]
  rw [effects_of_append rfl, List.filterMap_map, hsilent, List.append_nil]

lemma effects_reportRun (run : Nat) : (s.reportRun run).effects side = s.effects side := by
  unfold State.reportRun
  split
  · rw [effects_of_append rfl]
    cases side <;> exact List.append_nil _
  · rfl
  · rfl

lemma direction_reportRun (run : Nat) : (s.reportRun run).direction side = s.direction side := by
  unfold State.reportRun
  split <;> cases side <;> rfl

/-- A step of a side is one of this side, or leaves it alone. -/
lemma acts_stepSide (hphase : s.phase = .copying) (moved : Side) (step : Step) :
    Acts side s (moved.move step) (s.stepSide moved step) := by
  have heffects : (s.stepSide moved step).effects side = s.effects side
      ++ (((s.direction moved).step step).2.map moved.event).filterMap side.effect? :=
    effects_of_append (events_stepSide s moved step)
  by_cases hside : moved = side
  · subst hside
    refine .takes step ((s.direction moved).step step).2 hphase (moved.step?_move step) ?_ ?_ ?_
    · rw [direction_stepSide]
      exact Direction.takes_step _ step
    · rw [heffects, Side.effects_event]
    · intro hfinished
      rw [direction_stepSide] at hfinished
      simp [phase_stepSide, hfinished]
  · refine .spares (fun _ => Side.step?_move_of_ne hside step)
      (direction_stepSide_of_ne s step hside) ?_
    rw [heffects, Side.effects_event_of_ne hside, List.append_nil]

/-- **Every move is a step of a side, or leaves it alone.** -/
lemma Goes.acts (hgoes : Goes s m s') (side : Side) : Acts side s m s' := by
  cases hgoes with
  | side moved step hphase => exact acts_stepSide hphase moved step
  | fire =>
      exact .spares (fun _ => by cases side <;> rfl) (by cases side <;> rfl)
        (effects_stepHook .start)
  | report run =>
      exact .spares (fun _ => by cases side <;> rfl) (direction_reportRun run)
        (effects_reportRun run)
  | hook m =>
      exact .spares (fun _ => by cases side <;> rfl) (by cases side <;> rfl) (effects_stepHook m)
  | ignore _ hcopying =>
      refine .spares (fun hphase => ?_) rfl rfl
      rcases hcopying hphase with rfl | rfl <;> cases side <;> rfl

end Sides

end AgentLaunch.Relay
