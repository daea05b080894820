import AgentLaunch.Attempt.Launch
import Mathlib.Tactic.Common

/-!
# More rounds

The loops of an attempt get a number of rounds, and a loop that has none left is unfinished.  A
dialogue *extends* another one if it goes on in some way wherever the other one is unfinished, and
agrees with it everywhere else.  More rounds extend an attempt, so they make no difference to a run
that comes to its end.

* `Dialogue.Extends` — the relation, with its laws for sequences.
* **`Extends.run_eq`** — a run that has a result is a run of every extension.
* `extends_establish` — the wait for the management service, with more rounds.

Rounds make the loops structurally recursive, and the price is that every statement about an attempt
has a number of rounds in it.  This module pays it back.  A loop with no rounds left is extended by
anything, a request is extended by the same request with extended continuations, and a result by
itself only; `Extends` has one constructor for each of these cases.  That a loop with fewer rounds
is extended by one with more is an induction on the smaller number, and the rest is congruence.

The relation says nothing about the number of rounds that is needed.  That is found in `Deadline`,
where `establish_run_rounds` puts both together.
-/

namespace AgentLaunch.Dialogue

variable {S : Signature} {α β : Type}

/-- The second dialogue is the first one, but may go on where that is unfinished. -/
inductive Extends : Dialogue S α → Dialogue S α → Prop where
  | done (a : α) : Extends (.done a) (.done a)
  | ask (r : S.Request) {next next' : S.Reply r → Dialogue S α}
      (h : ∀ reply, Extends (next reply) (next' reply)) : Extends (.ask r next) (.ask r next')
  | unfinished (d : Dialogue S α) : Extends .unfinished d

namespace Extends

lemma refl (d : Dialogue S α) : Extends d d := by
  induction d with
  | done a => exact .done a
  | ask r next ih => exact .ask r ih
  | unfinished => exact .unfinished _

lemma bind {d d' : Dialogue S α} {f f' : α → Dialogue S β} (h : Extends d d')
    (hf : ∀ a, Extends (f a) (f' a)) : Extends (d >>= f) (d' >>= f') := by
  induction h with
  | done a => exact hf a
  | ask r h ih => exact .ask r ih
  | unfinished d => exact .unfinished _

/-- Sequencing with failures: what follows a failure is the same on both sides. -/
lemma run_bind {ε : Type} {x x' : ExceptT ε (Dialogue S) α} {f f' : α → ExceptT ε (Dialogue S) β}
    (h : Extends x.run x'.run) (hf : ∀ a, Extends (f a).run (f' a).run) :
    Extends (x >>= f).run (x' >>= f').run := by
  refine h.bind fun r => ?_
  cases r with
  | ok a => exact hf a
  | error e => exact .refl _

/-- **A run that has a result needs no extension.** -/
theorem run_eq {d d' : Dialogue S α} (h : Extends d d') {σ : Type}
    {respond : σ → (r : S.Request) → S.Reply r × σ} {s : σ}
    (hresult : (run respond d s).result ≠ none) : run respond d' s = run respond d s := by
  induction h generalizing s with
  | done a => rfl
  | ask r h ih => simp only [run, ih _ hresult]
  | unfinished d => exact absurd rfl hresult

end Extends

end AgentLaunch.Dialogue

namespace AgentLaunch.Attempt

open Dialogue

variable {plan : LaunchPlan} {deadline : Deadline} {rounds rounds' : Nat}

lemma extends_resolve (h : rounds ≤ rounds') :
    Extends (resolve plan deadline rounds).run (resolve plan deadline rounds').run := by
  induction rounds generalizing rounds' with
  | zero => exact .unfinished _
  | succ rounds ih =>
      obtain ⟨rounds', rfl⟩ := Nat.exists_eq_add_of_lt h
      refine .run_bind (.refl _) fun late => ?_
      cases late with
      | some waited => exact .refl _
      | none =>
          refine .run_bind (.refl _) fun found => ?_
          cases found with
          | some target => exact .refl _
          | none => exact .run_bind (.refl _) fun _ => ih (by omega)

lemma extends_awaitReady {stabilized : Bool} (h : rounds ≤ rounds') :
    Extends (awaitReady plan deadline rounds stabilized).run
      (awaitReady plan deadline rounds' stabilized).run := by
  induction rounds generalizing rounds' stabilized with
  | zero => exact .unfinished _
  | succ rounds ih =>
      obtain ⟨rounds', rfl⟩ := Nat.exists_eq_add_of_lt h
      refine .run_bind (.refl _) fun late => ?_
      cases late with
      | some waited => exact .refl _
      | none =>
          refine .run_bind (.refl _) fun found => ?_
          cases found with
          | ready => exact .refl _
          | waiting stabilized' => exact .run_bind (.refl _) fun _ => ih (by omega)

/-- More rounds go on where the wait for the management service is unfinished. -/
theorem extends_establish (h : rounds ≤ rounds') :
    Extends (establish plan rounds).run (establish plan rounds').run := by
  refine .run_bind (.refl _) fun start => ?_
  refine .run_bind (.refl _) fun _ => ?_
  refine .run_bind (.refl _) fun now => ?_
  refine .run_bind (extends_resolve h) fun target => ?_
  exact .run_bind (extends_awaitReady h) fun _ => .refl _

end AgentLaunch.Attempt
