import AgentLaunch.Proofs.Transcript
import Mathlib.Data.List.Forall2

/-!
# Dialogues side by side

Two dialogues are held at the same time with two others who may know different things.  What can be
told of such a pair depends on who looks: a `Likeness` says which requests look the same, and which
requests with their replies.  Dialogues are *alike* if they make requests that look the same for as
long as they get replies that look the same, and come to results that have to do with each other.

* `Dialogue.Alike` — the relation, with its laws for sequences.
* **`Alike.run`** — alike dialogues with others who reply alike lead to runs that look the same.

The relation is inductive, with one case for two results, one for two requests, and one for two
dialogues that are both unfinished.  Requests look the same, and whatever two replies are given that
look the same, what follows is alike again.  The replies need not be the same, and may not even have
the same type, as the requests may differ.

A run adds the others, with a state each.  `R` relates the two states; it has to be kept by replies
to requests that look the same, and these replies have to look the same in turn.  Then the runs are
related step for step, by induction on the relation.  This is the shape in which a statement about
two runs of one program is reduced to the program alone.
-/

namespace AgentLaunch.Dialogue

/-- What looks the same. -/
structure Likeness (S : Signature) where
  requests : S.Request → S.Request → Prop
  events : Event S → Event S → Prop

variable {S : Signature} {L : Likeness S} {α α' β β' ε : Type}

/-- As long as the replies look the same, the requests do, and the results are related by `Q`. -/
inductive Alike (L : Likeness S) (Q : α → α' → Prop) : Dialogue S α → Dialogue S α' → Prop where
  | done {a : α} {a' : α'} (h : Q a a') : Alike L Q (.done a) (.done a')
  | ask {r r' : S.Request} {next : S.Reply r → Dialogue S α} {next' : S.Reply r' → Dialogue S α'}
      (hr : L.requests r r')
      (h : ∀ reply reply', L.events ⟨r, reply⟩ ⟨r', reply'⟩ →
        Alike L Q (next reply) (next' reply')) :
      Alike L Q (.ask r next) (.ask r' next')
  | unfinished : Alike L Q .unfinished .unfinished

/-- The same failure, or results that are related. -/
inductive ResultsAlike (Q : α → α' → Prop) : Except ε α → Except ε α' → Prop where
  | ok {a : α} {a' : α'} (h : Q a a') : ResultsAlike Q (.ok a) (.ok a')
  | error (e : ε) : ResultsAlike Q (.error e) (.error e)

namespace Alike

variable {Q : α → α' → Prop} {Q' : β → β' → Prop}

lemma bind {d : Dialogue S α} {d' : Dialogue S α'} {f : α → Dialogue S β} {f' : α' → Dialogue S β'}
    (h : Alike L Q d d') (hf : ∀ a a', Q a a' → Alike L Q' (f a) (f' a')) :
    Alike L Q' (d >>= f) (d' >>= f') := by
  induction h with
  | done h => exact hf _ _ h
  | ask hr h ih => exact .ask hr ih
  | unfinished => exact .unfinished

/-- Sequencing with failures. -/
lemma run_bind {x : ExceptT ε (Dialogue S) α} {x' : ExceptT ε (Dialogue S) α'}
    {f : α → ExceptT ε (Dialogue S) β} {f' : α' → ExceptT ε (Dialogue S) β'}
    (h : Alike L (ResultsAlike Q) x.run x'.run)
    (hf : ∀ a a', Q a a' → Alike L (ResultsAlike Q') (f a).run (f' a').run) :
    Alike L (ResultsAlike Q') (x >>= f).run (x' >>= f').run := by
  refine h.bind fun r r' hresults => ?_
  cases hresults with
  | ok h => exact hf _ _ h
  | error e => exact .done (.error e)

/-! ## Runs -/

/-- **Runs of alike dialogues look the same.**  `R` tells which states of the two others go
together: those from which they reply alike, and stay so. -/
theorem run {σ σ' : Type} {R : σ → σ' → Prop} {respond : σ → (r : S.Request) → S.Reply r × σ}
    {respond' : σ' → (r : S.Request) → S.Reply r × σ'} {d : Dialogue S α} {d' : Dialogue S α'}
    (h : Alike L Q d d')
    (hrespond : ∀ s s' r r', R s s' → L.requests r r' →
      L.events ⟨r, (respond s r).1⟩ ⟨r', (respond' s' r').1⟩
        ∧ R (respond s r).2 (respond' s' r').2)
    {s : σ} {s' : σ'} (hs : R s s') :
    Option.Rel Q (run respond d s).result (run respond' d' s').result
      ∧ R (run respond d s).after (run respond' d' s').after
      ∧ List.Forall₂ (fun x x' => R x.before x'.before ∧ L.events x.event x'.event)
        (run respond d s).exchanges (run respond' d' s').exchanges := by
  induction h generalizing s s' with
  | done h => exact ⟨.some h, hs, .nil⟩
  | unfinished => exact ⟨.none, hs, .nil⟩
  | @ask r r' next next' hr h ih =>
      obtain ⟨hreply, hafter⟩ := hrespond s s' r r' hs hr
      obtain ⟨hresult, hend, hrest⟩ := ih _ _ hreply hafter
      exact ⟨hresult, hend, .cons ⟨hs, hreply⟩ hrest⟩

end Alike

end AgentLaunch.Dialogue
