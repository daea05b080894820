import AgentLaunch.Attempt.Surroundings
import Mathlib.Tactic.Common

/-!
# Transcripts of dialogues

A *transcript* of a dialogue is what could be read of it afterwards: the requests that were made,
each with the reply that it got, and the result.  The replies may be any at all, so what holds of
every transcript holds whatever the others do.

A transcript may end with no result, if the dialogue is unfinished there.  So the laws below speak
about an optional result, and a sequence has one case more than one might think: its first part can
be unfinished, and then the second one has not begun.

* `Dialogue.Transcript` — the transcripts of a dialogue.
* `transcript_bind_iff`, `transcript_run_bind_iff` — a transcript of one dialogue after another
  is made of a transcript of each, unless the first one ends the matter.
* **`run_transcript`** — whatever a run of a dialogue does, it leaves a transcript of it.

The laws are equivalences, and a dialogue is taken apart by rewriting with them.  The same is done
for dialogues that may fail, where a failure of the first part is the end of the whole.

A run has states, which a transcript leaves out.  `stateAfter`, `exchangesFrom` and `Answered` put
them back: from a state and the events of a run everything else about it can be computed, by
recursion on the events.  This is how a statement about times or files is reduced to one about
events (`run_replay`), and how a transcript with the right replies is known to be the run
(`run_of_transcript`).
-/

namespace AgentLaunch.Dialogue

variable {S : Signature} {α β : Type}

/-! ## Dialogues as a monad -/

@[simp] lemma done_bind (a : α) (f : α → Dialogue S β) : Dialogue.done a >>= f = f a := rfl

@[simp] lemma ask_bind (r : S.Request) (next : S.Reply r → Dialogue S α)
    (f : α → Dialogue S β) :
    Dialogue.ask r next >>= f = .ask r fun reply => next reply >>= f := rfl

@[simp] lemma unfinished_bind (f : α → Dialogue S β) :
    (Dialogue.unfinished : Dialogue S α) >>= f = .unfinished := rfl

/-! ## Transcripts -/

/-- A request and the reply it got. -/
structure Event (S : Signature) where
  request : S.Request
  reply : S.Reply request

/-- `Transcript d es o`: if the replies are those of `es`, then `d` makes the requests of `es`, in
order and no others, and ends with `o`. -/
inductive Transcript : Dialogue S α → List (Event S) → Option α → Prop where
  | done (a : α) : Transcript (.done a) [] (some a)
  | ask {r : S.Request} {next : S.Reply r → Dialogue S α} (reply : S.Reply r)
      {es : List (Event S)} {o : Option α} (rest : Transcript (next reply) es o) :
      Transcript (.ask r next) (⟨r, reply⟩ :: es) o
  | unfinished : Transcript .unfinished [] none

variable {d : Dialogue S α} {es : List (Event S)}

@[simp] lemma transcript_done_iff {a : α} {o : Option α} :
    Transcript (.done a : Dialogue S α) es o ↔ es = [] ∧ o = some a := by
  constructor
  · rintro ⟨⟩
    exact ⟨rfl, rfl⟩
  · rintro ⟨rfl, rfl⟩
    exact .done a

lemma transcript_ask_iff {r : S.Request} {next : S.Reply r → Dialogue S α} {o : Option α} :
    Transcript (.ask r next) es o
      ↔ ∃ reply rest, Transcript (next reply) rest o ∧ es = ⟨r, reply⟩ :: rest := by
  constructor
  · rintro ⟨⟩
    exact ⟨_, _, ‹_›, rfl⟩
  · rintro ⟨reply, rest, h, rfl⟩
    exact .ask reply h

@[simp] lemma transcript_unfinished_iff {o : Option α} :
    Transcript (.unfinished : Dialogue S α) es o ↔ es = [] ∧ o = none := by
  constructor
  · rintro ⟨⟩
    exact ⟨rfl, rfl⟩
  · rintro ⟨rfl, rfl⟩
    exact .unfinished

@[simp] lemma transcript_request_iff {r : S.Request} {o : Option (S.Reply r)} :
    Transcript (request r) es o ↔ ∃ reply, es = [⟨r, reply⟩] ∧ o = some reply := by
  simp only [request, transcript_ask_iff, transcript_done_iff]
  constructor
  · rintro ⟨reply, rest, ⟨rfl, rfl⟩, rfl⟩
    exact ⟨reply, rfl, rfl⟩
  · rintro ⟨reply, rfl, rfl⟩
    exact ⟨reply, [], ⟨rfl, rfl⟩, rfl⟩

/-- **Sequencing.**  Either the first dialogue has a result and the second one goes on from it, or
the first one is unfinished. -/
lemma transcript_bind_iff {f : α → Dialogue S β} {o : Option β} :
    Transcript (d >>= f) es o
      ↔ (∃ first a second,
          Transcript d first (some a) ∧ Transcript (f a) second o ∧ es = first ++ second)
        ∨ Transcript d es none ∧ o = none := by
  induction d generalizing es with
  | done a => simp
  | unfinished => simp
  | ask r next ih =>
      simp only [ask_bind, transcript_ask_iff, ih]
      constructor
      · rintro ⟨reply, rest, ⟨first, a, second, h₁, h₂, rfl⟩ | ⟨h, rfl⟩, rfl⟩
        · exact .inl ⟨⟨r, reply⟩ :: first, a, second, ⟨reply, first, h₁, rfl⟩, h₂, rfl⟩
        · exact .inr ⟨⟨reply, rest, h, rfl⟩, rfl⟩
      · rintro (⟨_, a, second, ⟨reply, first, h₁, rfl⟩, h₂, rfl⟩ | ⟨⟨reply, rest, h, rfl⟩, rfl⟩)
        · exact ⟨reply, first ++ second, .inl ⟨first, a, second, h₁, h₂, rfl⟩, rfl⟩
        · exact ⟨reply, rest, .inr ⟨h, rfl⟩, rfl⟩

/-- A dialogue whose result is turned into another one. -/
lemma transcript_map_iff {f : α → β} {o : Option β} :
    Transcript (f <$> d) es o ↔ ∃ a, Transcript d es a ∧ o = a.map f := by
  have hmap : f <$> d = d >>= fun a => .done (f a) := rfl
  rw [hmap, transcript_bind_iff]
  constructor
  · rintro (⟨first, a, second, h, h', rfl⟩ | ⟨h, rfl⟩)
    · obtain ⟨rfl, rfl⟩ := transcript_done_iff.mp h'
      exact ⟨some a, by simpa using h, rfl⟩
    · exact ⟨none, h, rfl⟩
  · rintro ⟨_ | a, h, rfl⟩
    · exact .inr ⟨h, rfl⟩
    · exact .inl ⟨es, a, [], h, .done _, by simp⟩

/-- A request, and what follows its reply. -/
lemma transcript_request_bind_iff {r : S.Request} {f : S.Reply r → Dialogue S β} {o : Option β} :
    Transcript (request r >>= f) es o
      ↔ ∃ reply rest, Transcript (f reply) rest o ∧ es = ⟨r, reply⟩ :: rest :=
  transcript_ask_iff

/-! ## Dialogues that may fail -/

variable {ε : Type}

@[simp] lemma transcript_run_pure_iff {a : α} {o : Option (Except ε α)} :
    Transcript (pure a : ExceptT ε (Dialogue S) α).run es o ↔ es = [] ∧ o = some (.ok a) :=
  transcript_done_iff

@[simp] lemma transcript_run_throw_iff {e : ε} {o : Option (Except ε α)} :
    Transcript (throw e : ExceptT ε (Dialogue S) α).run es o ↔ es = [] ∧ o = some (.error e) :=
  transcript_done_iff

/-- A dialogue that cannot fail, as a part of one that may. -/
lemma transcript_run_lift_iff {o : Option (Except ε α)} :
    Transcript (liftM d : ExceptT ε (Dialogue S) α).run es o
      ↔ (∃ a, Transcript d es (some a) ∧ o = some (.ok a)) ∨ Transcript d es none ∧ o = none := by
  have hrun : (liftM d : ExceptT ε (Dialogue S) α).run = Except.ok <$> d := rfl
  rw [hrun, transcript_map_iff]
  constructor
  · rintro ⟨_ | a, h, rfl⟩
    · exact .inr ⟨h, rfl⟩
    · exact .inl ⟨a, h, rfl⟩
  · rintro (⟨a, h, rfl⟩ | ⟨h, rfl⟩)
    · exact ⟨some a, h, rfl⟩
    · exact ⟨none, h, rfl⟩

lemma transcript_run_request_bind_iff {r : S.Request} {f : S.Reply r → ExceptT ε (Dialogue S) β}
    {o : Option (Except ε β)} :
    Transcript ((liftM (request r) : ExceptT ε (Dialogue S) (S.Reply r)) >>= f).run es o
      ↔ ∃ reply rest, Transcript (f reply).run rest o ∧ es = ⟨r, reply⟩ :: rest :=
  transcript_ask_iff

/-- **Sequencing with failures.**  A failure of the first part is the end. -/
lemma transcript_run_bind_iff {x : ExceptT ε (Dialogue S) α} {f : α → ExceptT ε (Dialogue S) β}
    {o : Option (Except ε β)} :
    Transcript (x >>= f).run es o
      ↔ (∃ first a second, Transcript x.run first (some (.ok a))
          ∧ Transcript (f a).run second o ∧ es = first ++ second)
        ∨ (∃ e, Transcript x.run es (some (.error e)) ∧ o = some (.error e))
        ∨ Transcript x.run es none ∧ o = none := by
  rw [ExceptT.run_bind, transcript_bind_iff]
  constructor
  · rintro (⟨first, e | a, second, h₁, h₂, rfl⟩ | h)
    · obtain ⟨rfl, rfl⟩ := transcript_done_iff.mp h₂
      exact .inr (.inl ⟨e, by simpa using h₁, rfl⟩)
    · exact .inl ⟨first, a, second, h₁, h₂, rfl⟩
    · exact .inr (.inr h)
  · rintro (⟨first, a, second, h₁, h₂, rfl⟩ | ⟨e, h, rfl⟩ | h)
    · exact .inl ⟨first, .ok a, second, h₁, h₂, rfl⟩
    · exact .inl ⟨es, .error e, [], h, .done _, by simp⟩
    · exact .inr h

lemma transcript_run_lift_bind_iff {f : α → ExceptT ε (Dialogue S) β} {o : Option (Except ε β)} :
    Transcript ((liftM d : ExceptT ε (Dialogue S) α) >>= f).run es o
      ↔ (∃ first a second,
          Transcript d first (some a) ∧ Transcript (f a).run second o ∧ es = first ++ second)
        ∨ Transcript d es none ∧ o = none := by
  rw [transcript_run_bind_iff]
  simp only [transcript_run_lift_iff]
  constructor
  · rintro (⟨first, a, second, ⟨_, h₁, ha⟩ | ⟨-, ha⟩, h₂, rfl⟩ | ⟨e, ⟨_, -, he⟩ | ⟨-, he⟩, -⟩ | h)
    · obtain rfl := Except.ok.inj (Option.some.inj ha)
      exact .inl ⟨first, a, second, h₁, h₂, rfl⟩
    · cases ha
    · cases he
    · cases he
    · obtain ⟨⟨_, -, hnone⟩ | ⟨h, -⟩, rfl⟩ := h
      · cases hnone
      · exact .inr ⟨h, rfl⟩
  · rintro (⟨first, a, second, h₁, h₂, rfl⟩ | ⟨h, rfl⟩)
    · exact .inl ⟨first, a, second, .inl ⟨a, h₁, rfl⟩, h₂, rfl⟩
    · exact .inr (.inr ⟨.inr ⟨h, trivial⟩, rfl⟩)

/-! ## Runs -/

/-- What a run leaves of its exchanges when nobody cares about the states any more. -/
def Exchange.event {σ : Type} (x : Exchange S σ) : Event S := ⟨x.request, x.reply⟩

/-- The requests and replies of a run. -/
def Run.events {σ : Type} (r : Run S σ α) : List (Event S) := r.exchanges.map Exchange.event

variable {σ : Type} {respond : σ → (r : S.Request) → S.Reply r × σ}

/-- A run of one dialogue after another, when the first one has a result. -/
lemma run_bind_of_result {d : Dialogue S α} {f : α → Dialogue S β} {s : σ} {a : α}
    (h : (run respond d s).result = some a) :
    run respond (d >>= f) s
      = ⟨(run respond (f a) (run respond d s).after).result,
          (run respond (f a) (run respond d s).after).after,
          (run respond d s).exchanges
            ++ (run respond (f a) (run respond d s).after).exchanges⟩ := by
  induction d generalizing s with
  | done b =>
      obtain rfl : b = a := Option.some.inj h
      rfl
  | ask r next ih =>
      have hrest := ih (respond s r).1 (s := (respond s r).2) h
      simp only [ask_bind, run, hrest, List.cons_append]
  | unfinished => cases h

/-- A run of one dialogue after another, when the first one is unfinished. -/
lemma run_bind_of_unfinished {d : Dialogue S α} {f : α → Dialogue S β} {s : σ}
    (h : (run respond d s).result = none) :
    run respond (d >>= f) s = ⟨none, (run respond d s).after, (run respond d s).exchanges⟩ := by
  induction d generalizing s with
  | done b => cases h
  | ask r next ih =>
      have hrest := ih (respond s r).1 (s := (respond s r).2) h
      simp only [ask_bind, run, hrest]
  | unfinished => rfl

/-- **A run leaves a transcript.** -/
theorem run_transcript (d : Dialogue S α) (s : σ) :
    Transcript d (run respond d s).events (run respond d s).result := by
  induction d generalizing s with
  | done a => exact .done a
  | ask r next ih => exact .ask _ (ih (respond s r).1 (respond s r).2)
  | unfinished => exact .unfinished

/-! ## Runs, event by event -/

variable (respond)

/-- The state after some requests. -/
def stateAfter (s : σ) (es : List (Event S)) : σ :=
  es.foldl (fun s x => (respond s x.request).2) s

/-- The exchanges in which some events happen. -/
def exchangesFrom (s : σ) : List (Event S) → List (Exchange S σ)
  | [] => []
  | x :: es => ⟨s, x.request, x.reply⟩ :: exchangesFrom (respond s x.request).2 es

@[simp] lemma exchangesFrom_map_event (s : σ) (es : List (Event S)) :
    (exchangesFrom respond s es).map Exchange.event = es := by
  induction es generalizing s with
  | nil => rfl
  | cons x es ih => exact congrArg (x :: ·) (ih _)

/-- The replies are those that are given from a state on. -/
def Answered (s : σ) : List (Event S) → Prop
  | [] => True
  | x :: es => x.reply = (respond s x.request).1 ∧ Answered (respond s x.request).2 es

section Append

variable (s : σ) (es es' : List (Event S))

lemma stateAfter_append :
    stateAfter respond s (es ++ es') = stateAfter respond (stateAfter respond s es) es' :=
  List.foldl_append

lemma exchangesFrom_append :
    exchangesFrom respond s (es ++ es')
      = exchangesFrom respond s es ++ exchangesFrom respond (stateAfter respond s es) es' := by
  induction es generalizing s with
  | nil => rfl
  | cons x es ih => exact congrArg (_ :: ·) (ih _)

lemma answered_append_iff :
    Answered respond s (es ++ es')
      ↔ Answered respond s es ∧ Answered respond (stateAfter respond s es) es' := by
  induction es generalizing s with
  | nil => simp [Answered, stateAfter]
  | cons x es ih =>
      rw [List.cons_append, Answered, Answered, ih, and_assoc]
      rfl

end Append

variable {respond}

/-- Each of the replies is one that is given in some state. -/
lemma Answered.exists_respond {s : σ} {es : List (Event S)} (h : Answered respond s es)
    {x : Event S} (hx : x ∈ es) : ∃ s', x.reply = (respond s' x.request).1 := by
  induction es generalizing s with
  | nil => cases hx
  | cons y es ih =>
      rcases List.mem_cons.mp hx with rfl | hx
      · exact ⟨s, h.1⟩
      · exact ih h.2 hx

/-- A run, from its events. -/
lemma run_replay (d : Dialogue S α) (s : σ) :
    (run respond d s).after = stateAfter respond s (run respond d s).events
      ∧ (run respond d s).exchanges = exchangesFrom respond s (run respond d s).events
      ∧ Answered respond s (run respond d s).events := by
  induction d generalizing s with
  | done a => exact ⟨rfl, rfl, trivial⟩
  | unfinished => exact ⟨rfl, rfl, trivial⟩
  | ask r next ih =>
      obtain ⟨hafter, hexchanges, hanswered⟩ := ih (respond s r).1 (respond s r).2
      exact ⟨hafter, congrArg (_ :: ·) hexchanges, rfl, hanswered⟩

/-- A transcript whose replies are given tells what the run does. -/
lemma run_of_transcript {d : Dialogue S α} {es : List (Event S)} {o : Option α} {s : σ}
    (ht : Transcript d es o) (hanswered : Answered respond s es) :
    run respond d s = ⟨o, stateAfter respond s es, exchangesFrom respond s es⟩ := by
  induction ht generalizing s with
  | done a => rfl
  | unfinished => rfl
  | @ask r next reply es o rest ih =>
      obtain ⟨hreply, hrest⟩ := hanswered
      replace hreply : reply = (respond s r).1 := hreply
      subst hreply
      simp only [run, ih hrest]
      rfl

end AgentLaunch.Dialogue
