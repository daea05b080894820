import Mathlib.Data.List.Induction
import AgentLaunch.Proofs.Channel.Directions

/-!
# What a relay delivers

The two directions of a relay, the relay itself, and everybody who runs its hook race with one
another.  Whoever wins, a direction gives its target a beginning of what its source gives, the
teardown happens once, and the line about the end of the channel is written by the relay alone.

* `Happens` — that something happens in the course of a run, told with the state that it finds.
* `Carries`, `Owned` — what every move keeps: of each side, and of the run that has the action.
* **`run_delivers`** — what is delivered, torn down and said after any moves.

All statements are about the state after a list of moves, by induction on the list from its end, so
that the last move is taken apart with everything before it known.  There are two invariants.
`Carries` is about one side, and holds of both by the same proof: what its target has been given is
what the direction has sent, which follows the steps of its source.  `Owned` is about the run that
has the action of the hook, and says whether that is the relay's or somebody else's.

Conditions such as "unless copying fails" are about something that has happened at some point, with
the relay in some state.  `Happens` says this of a list of moves without a history in the state, so
the machine need not remember what only the theorem asks for.
-/

namespace AgentLaunch.Relay

open Teardown (TornDown)

/-! ## What happens in the course of a run -/

/-- A move that finds the relay as told happens in the course of a run. -/
def Happens (name : String) (moves : List Move) (P : State → Move → Prop) : Prop :=
  ∃ earlier m later, moves = earlier ++ m :: later ∧ P (State.run { name } earlier) m

/-- Copying on a side fails. -/
def Fails (side : Side) (s : State) (m : Move) : Prop :=
  s.phase = .copying ∧ side.step? m = some .fail

/-- The hook is run while the relay copies. -/
def Interrupts (s : State) (m : Move) : Prop :=
  s.phase = .copying ∧ m = .hook .start

/-- The relay's run takes the action of the hook. -/
def FiresItself (s : State) (m : Move) : Prop :=
  s.phase = .ended ∧ m = .fire ∧ s.hook.hasRun = false

/-- Somebody else's run takes it. -/
def IsFired (s : State) (m : Move) : Prop :=
  m = .hook .start ∧ s.hook.hasRun = false

section Happens

variable {name : String} {moves : List Move} {m : Move} {P : State → Move → Prop}

lemma not_happens_nil : ¬ Happens name [] P := by
  rintro ⟨earlier, m, later, heq, -⟩
  simp at heq

lemma happens_concat_iff :
    Happens name (moves ++ [m]) P ↔ Happens name moves P ∨ P (State.run { name } moves) m := by
  constructor
  · rintro ⟨earlier, m', later, heq, hp⟩
    rcases List.eq_nil_or_concat later with rfl | ⟨later, last, rfl⟩
    · obtain ⟨rfl, hm⟩ := List.append_inj' heq rfl
      obtain rfl := List.singleton_inj.mp hm
      exact .inr hp
    · have hsplit : moves ++ [m] = (earlier ++ m' :: later) ++ [last] := by simpa using heq
      exact .inl ⟨earlier, m', later, (List.append_inj' hsplit rfl).1, hp⟩
  · rintro (⟨earlier, m', later, rfl, hp⟩ | hp)
    · exact ⟨earlier, m', later ++ [m], by simp, hp⟩
    · exact ⟨moves, m, [], rfl, hp⟩

end Happens

/-! ## What is delivered -/

/-- What holds of a side after some moves. -/
structure Carries (side : Side) (name : String) (moves : List Move) (s : State) : Prop where
  tidy : (s.direction side).Tidy
  follows : (s.direction side).Follows (moves.filterMap side.step?)
  abreast : s.phase = .copying → (s.direction side).progress = .copying →
    (s.direction side).Abreast (moves.filterMap side.step?)
  delivered_eq : s.delivered side = (s.direction side).sent
  unfinished : s.phase = .copying → (s.direction side).progress ≠ .finished
  complete : (s.direction side).progress ≠ .copying → ¬ Happens name moves (Fails side) →
    (s.direction side).complete = true

section Carries

variable {side : Side} {name : String} {moves : List Move} {m : Move} {s s' : State}

lemma filterMap_step?_concat (m : Move) :
    (moves ++ [m]).filterMap side.step?
      = moves.filterMap side.step? ++ (side.step? m).toList := by
  rw [List.filterMap_append]
  cases hm : side.step? m <;> simp [hm]

/-- A step of the side. -/
lemma Carries.takes (h : Carries side name moves s) (hs : State.run { name } moves = s)
    {step : Step} {es : List Effect} (hcopying : s.phase = .copying)
    (hm : side.step? m = some step) (htakes : (s.direction side).Takes step (s'.direction side, es))
    (heffects : s'.effects side = s.effects side ++ es)
    (hphase : (s'.direction side).progress = .finished → s'.phase ≠ .copying) :
    Carries side name (moves ++ [m]) s' := by
  have hsteps : (moves ++ [m]).filterMap side.step? = moves.filterMap side.step? ++ [step] := by
    rw [filterMap_step?_concat, hm, Option.toList_some]
  have habreast (hprogress : (s.direction side).progress = .copying) :
      (s'.direction side).Abreast (moves.filterMap side.step? ++ [step]) :=
    htakes.abreast (h.abreast hcopying hprogress) hprogress
  constructor
  case tidy => exact htakes.tidy h.tidy
  case follows =>
    rw [hsteps]
    by_cases hprogress : (s.direction side).progress = .copying
    · exact (habreast hprogress).follows
    · exact htakes.follows h.follows hprogress
  case abreast =>
    intro _ hprogress
    rw [hsteps]
    exact habreast (htakes.copying hprogress)
  case delivered_eq =>
    show (s'.effects side).flatMap Effect.bytes = _
    rw [heffects, List.flatMap_append]
    exact (congrArg (· ++ _) h.delivered_eq).trans (htakes.sent_eq h.tidy).symm
  case unfinished => exact fun hphase' hfinished => hphase hfinished hphase'
  case complete =>
    intro hstopped hnever
    rw [happens_concat_iff, not_or, hs] at hnever
    rcases htakes.complete_or_fail hstopped with hdone | ⟨hprogress, hsame⟩ | ⟨-, rfl⟩
    · exact hdone
    · exact hsame.trans (h.complete hprogress hnever.1)
    · exact absurd ⟨hcopying, hm⟩ hnever.2

/-- A move that leaves the side alone. -/
lemma Carries.spares (h : Carries side name moves s)
    (hphase : s'.phase = .copying → s.phase = .copying)
    (hm : s.phase = .copying → side.step? m = none)
    (hdirection : s'.direction side = s.direction side)
    (heffects : s'.effects side = s.effects side) : Carries side name (moves ++ [m]) s' := by
  have hsteps : (moves ++ [m]).filterMap side.step? = _ := filterMap_step?_concat m
  constructor
  case tidy => exact hdirection ▸ h.tidy
  case follows =>
    rw [hdirection, hsteps]
    cases side.step? m with
    | none => simpa using h.follows
    | some step => exact h.follows.ignore step
  case abreast =>
    intro hcopying hprogress
    rw [hdirection] at hprogress ⊢
    rw [hsteps, hm (hphase hcopying), Option.toList_none, List.append_nil]
    exact h.abreast (hphase hcopying) hprogress
  case delivered_eq =>
    show (s'.effects side).flatMap Effect.bytes = _
    rw [heffects, hdirection]
    exact h.delivered_eq
  case unfinished =>
    intro hcopying
    rw [hdirection]
    exact h.unfinished (hphase hcopying)
  case complete =>
    intro hstopped hnever
    rw [hdirection] at hstopped ⊢
    rw [happens_concat_iff, not_or] at hnever
    exact h.complete hstopped hnever.1

/-- **Whatever happens, this holds of both sides.** -/
lemma carries_run (side : Side) (name : String) (moves : List Move) :
    Carries side name moves (State.run { name } moves) := by
  induction moves using List.reverseRecOn with
  | nil =>
      cases side <;> exact {
        tidy := ⟨Nat.le_refl 0, nofun⟩
        follows := ⟨List.nil_prefix, nofun⟩
        abreast := fun _ _ => ⟨rfl, by simp [State.run, State.direction]⟩
        delivered_eq := rfl
        unfinished := nofun
        complete := fun hstopped => absurd rfl hstopped }
  | append_singleton moves m ih =>
      rw [run_concat]
      have hgoes := goes_step (State.run { name } moves) m
      cases hgoes.acts side with
      | takes step es hcopying hm htakes heffects hphase =>
          exact ih.takes rfl hcopying hm htakes heffects hphase
      | spares hm hdirection heffects => exact ih.spares hgoes.copying hm hdirection heffects

end Carries

/-! ## What is flushed before the teardown -/

section Flushed

variable {name : String} {moves : List Move} {m : Move} {s s' : State}

/-- As long as the relay copies, the hook is not run unless somebody interrupts it. -/
lemma hasRun_of_copying (hphase : (State.run { name } moves).phase = .copying)
    (hnever : ¬ Happens name moves Interrupts) :
    (State.run { name } moves).hook.hasRun = false := by
  induction moves using List.reverseRecOn with
  | nil => rfl
  | append_singleton moves m ih =>
      rw [run_concat] at hphase ⊢
      rw [happens_concat_iff, not_or] at hnever
      have hreached := (sound_run name moves).hook
      have hgoes := goes_step (State.run { name } moves) m
      have hcopying := hgoes.copying hphase
      have hbefore := ih hcopying hnever.1
      generalize State.run { name } moves = s at *
      generalize s.step m = s' at *
      cases hgoes with
      | side side step =>
          rw [hook_stepSide]
          exact hbefore
      | fire => cases hphase
      | report run hfiring => simp [hcopying] at hfiring
      | hook m =>
          have hm : m ≠ .start := fun hm => hnever.2 ⟨hcopying, hm ▸ rfl⟩
          rw [Bool.eq_false_iff, ne_eq]
          exact fun hrun => ((hreached.hasRun_step_iff m).mp hrun).elim (by simp [hbefore]) hm
      | ignore => exact hbefore

/-- **What was written on the way out is flushed before anything happens to the process.** -/
lemma flushed_run (hfinished : (State.run { name } moves).outbound.progress = .finished)
    (hnever : ¬ Happens name moves Interrupts) :
    ∃ before after, (State.run { name } moves).events = before ++ .outbound .pushed :: after
      ∧ before.filterMap hookEvent? = [] ∧ after.filterMap Side.outbound.effect? = [] := by
  induction moves using List.reverseRecOn with
  | nil => cases hfinished
  | append_singleton moves m ih =>
      have hcarries := carries_run .outbound name moves
      have hsound := sound_run name moves
      have hrun := run_concat { name } moves m
      rw [happens_concat_iff, not_or] at hnever
      have huntouched := fun hphase => hasRun_of_copying hphase hnever.1
      rw [hrun] at hfinished ⊢
      have hgoes := goes_step (State.run { name } moves) m
      generalize State.run { name } moves = s at *
      generalize s.step m = s' at *
      by_cases hbefore : s.outbound.progress = .finished
      · obtain ⟨before, after, hevents, hhook, hafter⟩ := ih hbefore hnever.1
        obtain ⟨news, hnews⟩ := hgoes.keepsEvents
        have hsame : s'.effects .outbound = s.effects .outbound := by
          cases hgoes.acts .outbound with
          | takes _ _ hcopying => exact absurd hbefore (hcarries.unfinished hcopying)
          | spares _ _ heffects => exact heffects
        rw [effects_of_append hnews.symm, List.append_right_eq_self] at hsame
        refine ⟨before, after ++ news, by simp [← hnews, hevents], hhook, ?_⟩
        rw [List.filterMap_append, hafter, hsame]
        rfl
      · cases hgoes with
        | side side step hphase =>
            cases side with
            | inbound => exact absurd hfinished hbefore
            | outbound =>
                have hpushed := (s.outbound.takes_step step).pushed hbefore hfinished
                have hhook := hsound.hook.eq_of_not_hasRun (huntouched hphase)
                refine ⟨s.events, [], ?_, ?_, rfl⟩
                · rw [events_stepSide]
                  exact congrArg (fun es => s.events ++ es.map Side.outbound.event) hpushed
                · rw [← hookEvents_eq_filterMap, hsound.hookEvents_eq, hhook]
        | report run =>
            have hsame : (s.reportRun run).direction .outbound = s.direction .outbound :=
              direction_reportRun run
            exact absurd ((congrArg Direction.progress hsame).symm.trans hfinished) hbefore
        | _ => exact absurd hfinished hbefore

end Flushed

/-! ## Whose run has the action -/

/-- What holds of the run that has the action. -/
structure Owned (name : String) (moves : List Move) (s : State) : Prop where
  name_eq : s.name = name
  hasRun_iff : s.hook.hasRun = true ↔ Happens name moves FiresItself ∨ Happens name moves IsFired
  untaken : s.hook.hasRun = false → s.phase = .copying ∨ s.phase = .ended
  /-- The relay waits for its run, which nobody gives up, or has gone on. -/
  itself : Happens name moves FiresItself →
    s.phase = .firing 0 ∧ s.hook.runs[0]? ≠ some .abandoned
      ∨ s.phase = .closed ∧ s.lines = [State.closedLine name]
  other : Happens name moves IsFired → s.phase ≠ .firing 0 ∧ s.lines = []

section Owned

variable {name : String} {moves : List Move} {m : Move} {s s' : State}

/-- Nobody's run takes the action. -/
lemma Owned.quiet (h : Owned name moves s) (hs : State.run { name } moves = s)
    (hself : ¬ FiresItself s m) (hother : ¬ IsFired s m) (hname : s'.name = s.name)
    (hrun : s'.hook.hasRun = s.hook.hasRun) (hlines : s'.lines = s.lines)
    (hphase : s'.phase = s.phase ∨ s.phase = .copying ∧ s'.phase = .ended)
    (hfirst : s.phase = .firing 0 → s.hook.runs[0]? ≠ some .abandoned →
      s'.hook.runs[0]? ≠ some .abandoned) : Owned name (moves ++ [m]) s' := by
  have hitself : Happens name (moves ++ [m]) FiresItself ↔ Happens name moves FiresItself := by
    rw [happens_concat_iff, hs, or_iff_left hself]
  have hfired : Happens name (moves ++ [m]) IsFired ↔ Happens name moves IsFired := by
    rw [happens_concat_iff, hs, or_iff_left hother]
  constructor
  case name_eq => exact hname.trans h.name_eq
  case hasRun_iff => rw [hrun, hitself, hfired, h.hasRun_iff]
  case untaken =>
    intro huntaken
    rcases hphase with hphase | ⟨-, hphase⟩
    · rw [hphase]
      exact h.untaken (hrun ▸ huntaken)
    · exact .inr hphase
  case itself =>
    intro hhappens
    rcases h.itself (hitself.mp hhappens) with ⟨hfiring, halive⟩ | ⟨hclosed, hsaid⟩
    · rcases hphase with hphase | ⟨hcopying, -⟩
      · exact .inl ⟨hphase.trans hfiring, hfirst hfiring halive⟩
      · simp [hcopying] at hfiring
    · rcases hphase with hphase | ⟨hcopying, -⟩
      · exact .inr ⟨hphase.trans hclosed, hlines.trans hsaid⟩
      · simp [hcopying] at hclosed
  case other =>
    intro hhappens
    obtain ⟨hfiring, hsilent⟩ := h.other (hfired.mp hhappens)
    refine ⟨?_, hlines.trans hsilent⟩
    rcases hphase with hphase | ⟨-, hphase⟩
    · rwa [hphase]
    · simp [hphase]

/-- The relay runs the hook. -/
lemma Owned.fire (h : Owned name moves s) (hs : State.run { name } moves = s) (hsound : Sound s)
    (hphase : s.phase = .ended) :
    Owned name (moves ++ [.fire])
      { s.stepHook .start with phase := .firing s.hook.runs.length } := by
  have hrun : (s.hook.step .start).hasRun = true :=
    (hsound.hook.hasRun_step_iff .start).mpr (.inr rfl)
  have hidle : ¬ Happens name moves FiresItself := by
    intro hhappens
    rcases h.itself hhappens with ⟨hfiring, -⟩ | ⟨hclosed, -⟩
    · simp [hphase] at hfiring
    · simp [hphase] at hclosed
  have hitself : Happens name (moves ++ [.fire]) FiresItself ↔ s.hook.hasRun = false := by
    rw [happens_concat_iff, or_iff_right hidle, hs]
    exact ⟨fun hfires => hfires.2.2, fun hfirst => ⟨hphase, rfl, hfirst⟩⟩
  have hfired : Happens name (moves ++ [.fire]) IsFired ↔ s.hook.hasRun = true := by
    have hnobody : ¬ IsFired (State.run { name } moves) .fire := fun hfires => by cases hfires.1
    rw [happens_concat_iff, or_iff_left hnobody, h.hasRun_iff, or_iff_right hidle]
  constructor
  case name_eq => exact h.name_eq
  case hasRun_iff =>
    rw [hitself, hfired]
    exact iff_of_true hrun (Bool.eq_false_or_eq_true _).symm
  case untaken => exact fun huntaken => by cases hrun.symm.trans huntaken
  case itself =>
    intro hhappens
    have hhook := hsound.hook.eq_of_not_hasRun (hitself.mp hhappens)
    refine .inl ⟨congrArg (fun hook => Phase.firing hook.runs.length) hhook, ?_⟩
    show (s.hook.step .start).runs[0]? ≠ _
    rw [hhook]
    decide
  case other =>
    intro hhappens
    refine ⟨fun hfiring => ?_, (lines_stepHook s .start).trans (hsound.silent (by simp [hphase]))⟩
    exact hsound.hook.length_ne_zero (hfired.mp hhappens) (Phase.firing.inj hfiring)

/-- Something happens to the hook. -/
lemma Owned.hook (h : Owned name moves s) (hs : State.run { name } moves = s) (hsound : Sound s)
    {hm : Teardown.Move} (hown : ∀ run, s.phase = .firing run → hm ≠ .abandon run) :
    Owned name (moves ++ [.hook hm]) (s.stepHook hm) := by
  have hrun := hsound.hook.hasRun_step_iff hm
  by_cases hfirst : hm = .start ∧ s.hook.hasRun = false
  · obtain ⟨rfl, huntaken⟩ := hfirst
    have hnever : ¬ (Happens name moves FiresItself ∨ Happens name moves IsFired) := by
      rw [← h.hasRun_iff, huntaken]
      simp
    have hidle : ¬ Happens name (moves ++ [.hook .start]) FiresItself := by
      rw [happens_concat_iff, or_iff_right (not_or.mp hnever).1]
      simp [FiresItself]
    have hfired : Happens name (moves ++ [.hook .start]) IsFired := by
      rw [happens_concat_iff, hs]
      exact .inr ⟨rfl, huntaken⟩
    have hphase := h.untaken huntaken
    constructor
    case name_eq => exact h.name_eq
    case hasRun_iff => exact iff_of_true (hrun.mpr (.inr rfl)) (.inr hfired)
    case untaken => exact fun _ => hphase
    case itself => exact fun hhappens => absurd hhappens hidle
    case other =>
      intro _
      have hopen : s.phase ≠ .firing 0 ∧ s.phase ≠ .closed := by
        rcases hphase with hphase | hphase <;> simp [hphase]
      exact ⟨hopen.1, (lines_stepHook s .start).trans (hsound.silent hopen.2)⟩
  · refine h.quiet hs (by simp [FiresItself]) ?_ rfl ?_ (lines_stepHook s hm) (.inl rfl) ?_
    · exact fun hfires => hfirst ⟨Move.hook.inj hfires.1, hfires.2⟩
    · show (s.hook.step hm).hasRun = _
      rw [Bool.eq_iff_iff, hrun, or_iff_left_iff_imp]
      exact fun hstart => by simpa [hstart] using hfirst
    · exact fun hfiring halive => hsound.hook.first_ne_abandoned halive (hown 0 hfiring)

/-- The relay's run of the hook may have returned. -/
lemma Owned.report (h : Owned name moves s) (hs : State.run { name } moves = s) (hsound : Sound s)
    {run : Nat} (hphase : s.phase = .firing run) :
    Owned name (moves ++ [.report]) (s.reportRun run) := by
  have hself : ¬ FiresItself s .report := by simp [FiresItself]
  have hother : ¬ IsFired s .report := by simp [IsFired]
  have hsilent := hsound.silent (by simp [hphase])
  unfold State.reportRun
  cases hreturned : s.hook.returned? run with
  | none => exact h.quiet hs hself hother rfl rfl rfl (.inl rfl) fun _ halive => halive
  | some effect =>
      have hfirst := hsound.hook.settles.effect_iff run effect hreturned
      have hitself : Happens name (moves ++ [.report]) FiresItself → run = 0 := by
        rw [happens_concat_iff, hs, or_iff_left hself]
        intro hhappens
        rcases h.itself hhappens with ⟨hfiring, -⟩ | ⟨hclosed, -⟩
        · exact Phase.firing.inj (hphase.symm.trans hfiring)
        · simp [hphase] at hclosed
      have hfired : Happens name (moves ++ [.report]) IsFired → run ≠ 0 := by
        rw [happens_concat_iff, hs, or_iff_left hother]
        rintro hhappens rfl
        exact (h.other hhappens).1 hphase
      have hrun : s.hook.hasRun = true ↔ Happens name (moves ++ [.report]) FiresItself
          ∨ Happens name (moves ++ [.report]) IsFired := by
        rw [happens_concat_iff, happens_concat_iff, hs, or_iff_left hself, or_iff_left hother]
        exact h.hasRun_iff
      have htaken : s.hook.hasRun ≠ false := by
        intro huntaken
        rcases h.untaken huntaken with hphase' | hphase' <;> simp [hphase] at hphase'
      cases effect with
      | true =>
          have hsaid : (State.lines { s with
              phase := .closed
              events := s.events ++ [.log (State.closedLine s.name)] })
              = [State.closedLine name] := by
            rw [lines_of_append rfl, hsilent, h.name_eq]
            rfl
          exact ⟨h.name_eq, hrun, fun huntaken => absurd huntaken htaken,
            fun _ => .inr ⟨rfl, hsaid⟩, fun hhappens => absurd (hfirst.mp rfl) (hfired hhappens)⟩
      | false =>
          refine ⟨h.name_eq, hrun, fun huntaken => absurd huntaken htaken, fun hhappens => ?_,
            fun _ => ⟨by simp, hsilent⟩⟩
          simpa using hfirst.mpr (hitself hhappens)

lemma Goes.owned (hgoes : Goes s m s') (h : Owned name moves s)
    (hs : State.run { name } moves = s) : Owned name (moves ++ [m]) s' := by
  have hsound : Sound s := hs ▸ sound_run name moves
  cases hgoes with
  | side side step hphase =>
      have hmove : side.move step ≠ .fire ∧ side.move step ≠ .hook .start := by
        cases side <;> simp [Side.move]
      refine h.quiet hs (fun hfires => hmove.1 hfires.2.1) (fun hfires => hmove.2 hfires.1)
        (name_stepSide s side step) (by rw [hook_stepSide]) (lines_stepSide s side step) ?_ ?_
      · rw [phase_stepSide]
        exact (ite_eq_or_eq _ _ _).symm.imp_right fun hended => ⟨hphase, hended⟩
      · rw [hook_stepSide]
        exact fun _ halive => halive
  | fire hphase => exact h.fire hs hsound hphase
  | report run hphase => exact h.report hs hsound hphase
  | hook m hown => exact h.hook hs hsound hown
  | ignore _ _ hfire hstart =>
      exact h.quiet hs (fun hfires => hfire hfires.1 hfires.2.1) (fun hfires => hstart hfires.1)
        rfl rfl rfl (.inl rfl) fun _ halive => halive

lemma owned_run (name : String) (moves : List Move) :
    Owned name moves (State.run { name } moves) := by
  induction moves using List.reverseRecOn with
  | nil =>
      exact {
        name_eq := rfl
        hasRun_iff := iff_of_false nofun (not_or.mpr ⟨not_happens_nil, not_happens_nil⟩)
        untaken := fun _ => .inl rfl
        itself := fun h => absurd h not_happens_nil
        other := fun h => absurd h not_happens_nil }
  | append_singleton moves m ih =>
      rw [run_concat]
      exact (goes_step _ m).owned ih rfl

end Owned

/-! ## What is delivered, torn down and said -/

/-- What a relay does after some moves. -/
structure Delivers (name : String) (moves : List Move) (s : State) : Prop where
  /-- Whatever happens, both ends get a beginning of what the other end gives. -/
  toController : s.toController <+: offered .outbound moves
  toAgent : s.toAgent <+: offered .inbound moves
  /-- If the output of the agent ends the channel without a failure, the controller gets all of
  it. -/
  whole : s.outbound.progress = .finished → ¬ Happens name moves (Fails .outbound) →
    .outbound .sourceEnds ∈ moves ∧ s.toController = offered .outbound moves
  /-- It has it before the teardown starts, unless somebody else wanted the channel closed. -/
  flushed : s.outbound.progress = .finished → ¬ Happens name moves Interrupts →
    ∃ before after, s.events = before ++ .outbound .pushed :: after
      ∧ (∀ e, .hook e ∉ before) ∧ ∀ e, .outbound e ∉ after
  /-- The process is ended at most once, and after that the session is closed at most once. -/
  inOrder : s.hookEvents <+: [.destroyStarts, .destroyEnds, .closeStarts, .closeEnds]
  /-- Both have been done for good when a run of the hook has had its effect. -/
  tornDown : ∀ run, s.hook.returned? run = some true → ∀ later,
    (s.run later).hookEvents = [.destroyStarts, .destroyEnds, .closeStarts, .closeEnds]
  /-- The action is taken by the relay or by somebody else, and not by both. -/
  fired : s.hook.hasRun = true ↔ Happens name moves FiresItself ∨ Happens name moves IsFired
  firedOnce : ¬ (Happens name moves FiresItself ∧ Happens name moves IsFired)
  /-- The relay says so once if it has closed the channel itself, and it comes to that. -/
  said : Happens name moves FiresItself →
    s.lines = if s.phase = .closed then [State.closedLine name] else []
  saying : Happens name moves FiresItself →
    (s.run (State.teardownMoves 0 ++ [.report])).lines = [State.closedLine name]
  /-- Otherwise, nothing is ever said. -/
  unsaid : Happens name moves IsFired → s.lines = []

section Delivers

variable {name : String} {moves : List Move} {m : Move} {s s' : State}

lemma Happens.append {P : State → Move → Prop} (h : Happens name moves P) (more : List Move) :
    Happens name (moves ++ more) P := by
  obtain ⟨earlier, m, later, rfl, hp⟩ := h
  exact ⟨earlier, m, later ++ more, by simp, hp⟩

/-- A relay whose run has the action comes to its end. -/
lemma closed_of_firing (hsound : Sound s) (hphase : s.phase = .firing 0)
    (halive : s.hook.runs[0]? ≠ some .abandoned) (hrun : s.hook.hasRun = true) :
    (s.run (State.teardownMoves 0 ++ [.report])).phase = .closed := by
  have hdone : TornDown (s.hook.run [.advance 0, .advance 0]) :=
    hsound.hook.settles.completes hrun halive
  have hreached := (hsound.hook.step (.advance 0)).step (.advance 0)
  have hreturned : ((s.stepHook (.advance 0)).stepHook (.advance 0)).hook.returned? 0 = some true :=
    hreached.settles.tornDown_iff.mp hdone
  have hfiring : ((s.stepHook (.advance 0)).stepHook (.advance 0)).phase = .firing 0 := hphase
  show (((s.step (.hook (.advance 0))).step (.hook (.advance 0))).step .report).phase = .closed
  rw [step_advance, step_advance, step_report hfiring]
  unfold State.reportRun
  rw [hreturned]

/-- **What is delivered, torn down and said.**  However the steps of the two directions, the end
of either, failures and runs of the hook by others interleave, nothing is lost or invented on the
way, an output that ends by itself arrives as a whole before the process is touched, the process
and the session are ended once, and only the relay's own run is told. -/
theorem run_delivers (name : String) (moves : List Move) :
    Delivers name moves (State.run { name } moves) := by
  have houtbound := carries_run .outbound name moves
  have hinbound := carries_run .inbound name moves
  have hsound := sound_run name moves
  have howned := owned_run name moves
  have hgiven : (State.run { name } moves).toController
      = (State.run { name } moves).outbound.sent :=
    (toController_eq_delivered _).trans houtbound.delivered_eq
  constructor
  case toController =>
    rw [hgiven]
    exact (List.take_prefix _ _).trans houtbound.follows.reads
  case toAgent =>
    rw [toAgent_eq_delivered, hinbound.delivered_eq]
    exact (List.take_prefix _ _).trans hinbound.follows.reads
  case whole =>
    intro hfinished hnever
    have hstopped : (State.run { name } moves).outbound.progress ≠ .copying := by simp [hfinished]
    obtain ⟨hended, hall⟩ := houtbound.tidy.complete (houtbound.complete hstopped hnever)
    obtain ⟨hmem, hread⟩ := houtbound.follows.ended hended
    obtain ⟨m, hmem, hm⟩ := List.mem_filterMap.mp hmem
    refine ⟨?_, hgiven.trans ((List.take_of_length_le hall).trans hread)⟩
    cases m with
    | outbound step =>
        obtain rfl := Option.some.inj hm
        exact hmem
    | _ => cases hm
  case flushed =>
    intro hfinished hnever
    obtain ⟨before, after, hevents, hbefore, hafter⟩ := flushed_run hfinished hnever
    rw [List.filterMap_eq_nil_iff] at hbefore hafter
    refine ⟨before, after, hevents, fun e hmem => ?_, fun e hmem => ?_⟩
    · cases hbefore _ hmem
    · cases hafter _ hmem
  case inOrder =>
    rw [hsound.hookEvents_eq]
    exact hsound.hook.inOrder
  case tornDown =>
    intro run hreturned later
    obtain rfl := (hsound.hook.settles.effect_iff run true hreturned).mp rfl
    have hdone : TornDown (State.run { name } moves).hook :=
      hsound.hook.settles.tornDown_iff.mpr hreturned
    have hkept := (events_prefix_run (State.run { name } moves) later).filterMap hookEvent?
    have hlater := sound_run name (moves ++ later)
    rw [run_append] at hlater
    have hmost := hlater.hook.inOrder
    rw [← hlater.hookEvents_eq] at hmost
    rw [← hookEvents_eq_filterMap, ← hookEvents_eq_filterMap, hsound.hookEvents_eq, hdone] at hkept
    exact hmost.eq_of_length_le hkept.length_le
  case fired => exact howned.hasRun_iff
  case firedOnce =>
    rintro ⟨hitself, hother⟩
    obtain ⟨hfiring, hsilent⟩ := howned.other hother
    rcases howned.itself hitself with ⟨hphase, -⟩ | ⟨-, hsaid⟩
    · exact hfiring hphase
    · simp [hsilent] at hsaid
  case said =>
    intro hitself
    split_ifs with hphase
    · rcases howned.itself hitself with ⟨hfiring, -⟩ | ⟨-, hsaid⟩
      · simp [hphase] at hfiring
      · exact hsaid
    · exact hsound.silent hphase
  case saying =>
    intro hitself
    have hlater := owned_run name (moves ++ (State.teardownMoves 0 ++ [.report]))
    rw [run_append] at hlater
    have hclosed : ((State.run { name } moves).run (State.teardownMoves 0 ++ [.report])).phase
        = .closed := by
      rcases howned.itself hitself with ⟨hfiring, halive⟩ | ⟨hphase, -⟩
      · exact closed_of_firing hsound hfiring halive (howned.hasRun_iff.mpr (.inl hitself))
      · exact (goes_step _ _).closed ((goes_step _ _).closed ((goes_step _ _).closed hphase))
    rcases hlater.itself (hitself.append _) with ⟨hfiring, -⟩ | ⟨-, hsaid⟩
    · simp [hclosed] at hfiring
    · exact hsaid
  case unsaid => exact fun hother => (howned.other hother).2

end Delivers

/-- An agent says something and ends, and the relay closes the channel, while nobody else does
anything. -/
def undisturbed : List Move :=
  (State.copySteps (Utf8.encode "ready") ++ State.endSteps).map .outbound
    ++ State.closingMoves { name := "i-1" }

theorem run_delivers_undisturbed :
    let s := State.run { name := "i-1" } undisturbed
    s.outbound.progress = .finished
      ∧ ¬ Happens "i-1" undisturbed (Fails .outbound) ∧ ¬ Happens "i-1" undisturbed Interrupts
      ∧ Happens "i-1" undisturbed FiresItself
      ∧ s.toController = Utf8.encode "ready"
      ∧ (∃ before after, s.events = before ++ .outbound .pushed :: after
        ∧ (∀ e, .hook e ∉ before) ∧ ∀ e, .outbound e ∉ after)
      ∧ s.lines = ["Channel to i-1 closed"] := by
  intro s
  have hdelivers : Delivers "i-1" undisturbed s := run_delivers "i-1" undisturbed
  have hfinished : s.outbound.progress = .finished := by rfl
  have hkept : ¬ Happens "i-1" undisturbed (Fails .outbound) := by
    rintro ⟨earlier, m, later, hmoves, -, hfails⟩
    have hnone : ∀ m ∈ undisturbed, Side.outbound.step? m ≠ some .fail := by decide
    exact hnone m (by simp [hmoves]) hfails
  have halone : ¬ Happens "i-1" undisturbed Interrupts := by
    rintro ⟨earlier, m, later, hmoves, -, rfl⟩
    have hnone : .hook .start ∉ undisturbed := by decide
    exact hnone (by simp [hmoves])
  have hitself : Happens "i-1" undisturbed FiresItself :=
    ⟨undisturbed.take 5, .fire, undisturbed.drop 6, rfl, rfl, rfl, rfl⟩
  have hoffered : offered .outbound undisturbed = Utf8.encode "ready" := by decide
  refine ⟨hfinished, hkept, halone, hitself, ?_, hdelivers.flushed hfinished halone, ?_⟩
  · rw [(hdelivers.whole hfinished hkept).2, hoffered]
  · exact (hdelivers.said hitself).trans rfl

end AgentLaunch.Relay
