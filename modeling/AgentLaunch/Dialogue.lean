/-!
# Dialogues

A program that talks to others is written as a *dialogue*: a tree in which every inner node is a
request and has one branch for every reply that the request can get.  Such a tree says what the
program does for every behaviour of the others, delays and failures included, so a statement about
all behaviours is an induction over the tree.

* `Signature` — which requests there are, and the type of the reply to each.
* `Dialogue` — the trees, a monad.  A leaf holds the result; the leaf `unfinished` ends the tree
  of a loop that was given too few rounds, and stands for no result at all.
* `Dialogue.perform` — the result when somebody replies.
* `Dialogue.run` — what happens when somebody replies according to a state: the result, the state
  in the end, and all exchanges in order.
-/

namespace AgentLaunch

/-- Requests, and the type of the reply to each of them. -/
structure Signature where
  Request : Type
  Reply : Request → Type

/-- What a program does until it has a result: it asks, and goes on according to the reply. -/
inductive Dialogue (S : Signature) (α : Type) where
  | done (a : α)
  /-- A request, and what follows each reply. -/
  | ask (request : S.Request) (next : S.Reply request → Dialogue S α)
  /-- The program would go on, but this tree does not say how. -/
  | unfinished

namespace Dialogue

variable {S : Signature} {α β : Type}

instance : Inhabited (Dialogue S α) := ⟨.unfinished⟩

/-- One dialogue after another, which may depend on the first one's result.  A dialogue that is
unfinished has none, and nothing comes after it. -/
def bind : Dialogue S α → (α → Dialogue S β) → Dialogue S β
  | .done a, f => f a
  | .ask request next, f => .ask request fun reply => (next reply).bind f
  | .unfinished, _ => .unfinished

instance : Monad (Dialogue S) where
  pure := .done
  bind := .bind

def request (r : S.Request) : Dialogue S (S.Reply r) :=
  .ask r .done

/-- Holds a dialogue with somebody who replies by doing something. -/
def perform {m : Type → Type} [Monad m] (reply : (r : S.Request) → m (S.Reply r)) :
    Dialogue S α → m (Option α)
  | .done a => pure (some a)
  | .ask r next => do perform reply (next (← reply r))
  | .unfinished => pure none

/-! ## Running a dialogue -/

/-- A request and its reply, with the state in which the request was made. -/
structure Exchange (S : Signature) (σ : Type) where
  before : σ
  request : S.Request
  reply : S.Reply request

/-- What has happened when a dialogue is over. -/
structure Run (S : Signature) (σ α : Type) where
  /-- The result; none if the dialogue is unfinished. -/
  result : Option α
  after : σ
  /-- All exchanges, in order. -/
  exchanges : List (Exchange S σ)

/-- Holds a dialogue with somebody who replies according to a state. -/
def run {σ : Type} (respond : σ → (r : S.Request) → S.Reply r × σ) :
    Dialogue S α → σ → Run S σ α
  | .done a, s => ⟨some a, s, []⟩
  | .ask r next, s =>
    let (reply, s') := respond s r
    let rest := run respond (next reply) s'
    ⟨rest.result, rest.after, ⟨s, r, reply⟩ :: rest.exchanges⟩
  | .unfinished, s => ⟨none, s, []⟩

end Dialogue

end AgentLaunch
