import AgentLaunch.Proofs.Transcript

/-!
# Scripts for parts of an attempt

A *script* says what a part of an attempt does when nothing goes wrong: the lines it writes and the
calls it makes, each with a reply that lets it go on.  Other replies to a call are *setbacks*; each
ends the attempt with an error, after the lines that tell about it.

Scripts are data, so that two of them can be appended, and a stage can be compared with a list
instead of a program.

* `Step`, `Setback` — what scripts are made of.
* `Completes` — everything in a script has happened, and no reply was a setback.
* `Stops` — the script was followed up to the first setback, and nothing came after it.
* **`Follows`** — a stage follows a script whatever the replies are: it completes it or it stops.
  `Follows.bind` builds the script of a stage from those of its parts.

Stopping is closed under more steps behind the setback (`Stops.append_right`), and a list in two
parts stops in the first one, or completes it and stops in the second one (`Stops.append_cases`).
These laws, and the like for `Completes`, are what is needed to take a long script apart again.
-/

namespace AgentLaunch.Attempt

open Dialogue

/-- A request of an attempt with its reply. -/
abbrev Event := Dialogue.Event signature

/-- A line has been written. -/
def said (line : String) : Event := ⟨.log line, ()⟩

/-- A call has been made and answered. -/
def called (c : Call) (reply : c.Reply) : Event := ⟨.call c, reply⟩

/-- The lines that have been logged. -/
def logged (es : List Event) : List String :=
  es.filterMap fun
    | ⟨.log line, _⟩ => some line
    | _ => none

@[simp] lemma logged_nil : logged [] = [] := rfl

@[simp] lemma logged_append (es es' : List Event) : logged (es ++ es') = logged es ++ logged es' :=
  List.filterMap_append

@[simp] lemma logged_said (line : String) (es : List Event) :
    logged (said line :: es) = line :: logged es := rfl

@[simp] lemma logged_called (c : Call) (reply : c.Reply) (es : List Event) :
    logged (called c reply :: es) = logged es := rfl

section Requests

variable {α : Type} {line : String} {c : Call} {es : List Event}

lemma transcript_log_iff {o : Option Unit} :
    Transcript (log line) es o ↔ es = [said line] ∧ o = some () := by
  constructor
  · intro h
    obtain ⟨_, rfl, rfl⟩ := transcript_request_iff.mp h
    exact ⟨rfl, rfl⟩
  · rintro ⟨rfl, rfl⟩
    exact transcript_request_iff.mpr ⟨(), rfl, rfl⟩

lemma transcript_call_iff {o : Option c.Reply} :
    Transcript (call c) es o ↔ ∃ reply, es = [called c reply] ∧ o = some reply :=
  transcript_request_iff

lemma transcript_call_some_iff {reply : c.Reply} :
    Transcript (call c) es (some reply) ↔ es = [called c reply] := by
  simp [transcript_call_iff]

lemma not_transcript_call_none : ¬ Transcript (call c) es none := by
  simp [transcript_call_iff]

lemma transcript_log_bind_iff {f : Unit → Activity α} {o : Option α} :
    Transcript (log line >>= f) es o
      ↔ ∃ rest, Transcript (f ()) rest o ∧ es = said line :: rest := by
  constructor
  · intro h
    obtain ⟨_, rest, hrest, rfl⟩ := transcript_request_bind_iff.mp h
    exact ⟨rest, hrest, rfl⟩
  · rintro ⟨rest, hrest, rfl⟩
    exact transcript_request_bind_iff.mpr ⟨(), rest, hrest, rfl⟩

lemma transcript_call_bind_iff {f : c.Reply → Activity α} {o : Option α} :
    Transcript (call c >>= f) es o
      ↔ ∃ reply rest, Transcript (f reply) rest o ∧ es = called c reply :: rest :=
  transcript_request_bind_iff

lemma transcript_stage_log_iff {o : Option (Except LaunchError Unit)} :
    Transcript (liftM (log line) : Stage Unit).run es o ↔ es = [said line] ∧ o = some (.ok ()) := by
  simp only [transcript_run_lift_iff, transcript_log_iff]
  constructor
  · rintro (⟨_, ⟨rfl, -⟩, rfl⟩ | ⟨⟨-, h⟩, -⟩)
    · exact ⟨rfl, rfl⟩
    · simp at h
  · rintro ⟨rfl, rfl⟩
    exact .inl ⟨(), ⟨rfl, trivial⟩, rfl⟩

lemma transcript_stage_call_iff {o : Option (Except LaunchError c.Reply)} :
    Transcript (liftM (call c) : Stage c.Reply).run es o
      ↔ ∃ reply, es = [called c reply] ∧ o = some (.ok reply) := by
  rw [transcript_run_lift_iff]
  simp [transcript_call_iff]

lemma transcript_stage_log_bind_iff {f : Unit → Stage α} {o : Option (Except LaunchError α)} :
    Transcript ((log line : Stage Unit) >>= f).run es o
      ↔ ∃ rest, Transcript (f ()).run rest o ∧ es = said line :: rest :=
  transcript_log_bind_iff (f := fun a => (f a).run)

lemma transcript_stage_call_bind_iff {f : c.Reply → Stage α} {o : Option (Except LaunchError α)} :
    Transcript ((call c : Stage c.Reply) >>= f).run es o
      ↔ ∃ reply rest, Transcript (f reply).run rest o ∧ es = called c reply :: rest :=
  transcript_run_request_bind_iff

lemma transcript_logAll_iff {lines : List String} {o : Option (Except LaunchError Unit)} :
    Transcript (lines.forM fun line => (log line : Stage Unit)).run es o
      ↔ es = lines.map said ∧ o = some (.ok ()) := by
  induction lines generalizing es o with
  | nil => exact transcript_run_pure_iff
  | cons line lines ih =>
      refine transcript_stage_log_bind_iff.trans ?_
      simp only [ih]
      constructor
      · rintro ⟨rest, ⟨rfl, rfl⟩, rfl⟩
        exact ⟨rfl, rfl⟩
      · rintro ⟨rfl, rfl⟩
        exact ⟨lines.map said, ⟨rfl, rfl⟩, rfl⟩

lemma transcript_logAll {lines : List String} {o : Option (Except LaunchError Unit)}
    (ht : Transcript (lines.forM fun line => (log line : Stage Unit)).run es o) :
    es = lines.map said ∧ o = some (.ok ()) :=
  transcript_logAll_iff.mp ht

lemma transcript_logAll_bind_iff {lines : List String} {f : Unit → Stage α}
    {o : Option (Except LaunchError α)} :
    Transcript ((lines.forM fun line => (log line : Stage Unit)) >>= f).run es o
      ↔ ∃ rest, Transcript (f ()).run rest o ∧ es = lines.map said ++ rest := by
  constructor
  · intro ht
    rcases transcript_run_bind_iff.mp ht with
      ⟨_, _, rest, hlines, hrest, rfl⟩ | ⟨_, hlines, rfl⟩ | ⟨hlines, rfl⟩
    · obtain ⟨rfl, -⟩ := transcript_logAll hlines
      exact ⟨rest, hrest, rfl⟩
    · obtain ⟨-, h⟩ := transcript_logAll hlines
      simp at h
    · obtain ⟨-, h⟩ := transcript_logAll hlines
      simp at h
  · rintro ⟨rest, hrest, rfl⟩
    exact transcript_run_bind_iff.mpr
      (.inl ⟨lines.map said, (), rest, transcript_logAll_iff.mpr ⟨rfl, rfl⟩, hrest, rfl⟩)

end Requests

lemma transcript_orFail_iff {ε α : Type} {toError : ε → LaunchError}
    {activity : Activity (Except ε α)} {es : List Event} {o : Option (Except LaunchError α)} :
    Transcript (orFail toError activity).run es o
      ↔ ∃ r, Transcript activity es r ∧ o = r.map (Except.mapError toError) := by
  have hrun : (orFail toError activity).run = Except.mapError toError <$> activity := by
    refine congrArg (activity >>= ·) (funext fun r => ?_)
    cases r <;> rfl
  rw [hrun, transcript_map_iff]

/-- A part that may fail with an error of its own kind, and what follows its result. -/
lemma transcript_orFail_bind {ε α β : Type} {toError : ε → LaunchError}
    {activity : Activity (Except ε α)} {f : α → Stage β} {es : List Event}
    {o : Option (Except LaunchError β)}
    (ht : Transcript (orFail toError activity >>= f).run es o) :
    (∃ first a second, Transcript activity first (some (.ok a))
        ∧ Transcript (f a).run second o ∧ es = first ++ second)
      ∨ (∃ e, Transcript activity es (some (.error e)) ∧ o = some (.error (toError e)))
      ∨ Transcript activity es none ∧ o = none := by
  rcases transcript_run_bind_iff.mp ht with
    ⟨first, a, second, hfirst, hsecond, rfl⟩ | ⟨e, hfirst, rfl⟩ | ⟨hfirst, rfl⟩
  · obtain ⟨_ | _ | a', hactivity, ho⟩ := transcript_orFail_iff.mp hfirst
    · simp at ho
    · simp [Except.mapError] at ho
    · obtain rfl : a = a' := by simpa [Except.mapError] using ho
      exact .inl ⟨first, a, second, hactivity, hsecond, rfl⟩
  · obtain ⟨_ | e' | _, hactivity, ho⟩ := transcript_orFail_iff.mp hfirst
    · simp at ho
    · obtain rfl : e = toError e' := by simpa [Except.mapError] using ho
      exact .inr (.inl ⟨e', hactivity, rfl⟩)
    · simp [Except.mapError] at ho
  · obtain ⟨_ | _, hactivity, ho⟩ := transcript_orFail_iff.mp hfirst
    · exact .inr (.inr ⟨hactivity, rfl⟩)
    · simp at ho

/-- What an activity does in any surroundings leaves a transcript. -/
lemma Surroundings.run_transcript {σ α : Type} (world : Surroundings σ) (activity : Activity α)
    (scene : Scene σ) :
    Transcript activity (world.run activity scene).events (world.run activity scene).result :=
  Dialogue.run_transcript activity scene

/-! ## Steps and setbacks -/

/-- How a reply ends an attempt: the lines about it, and the error. -/
structure Setback where
  lines : List String := []
  error : LaunchError

/-- One step of a script. -/
inductive Step where
  /-- Writes a line. -/
  | say (line : String)
  /-- Makes a call and gets a reply; `setback?` tells which replies are setbacks. -/
  | ask (c : Call) (reply : c.Reply) (setback? : c.Reply → Option Setback)

namespace Step

/-- What happens in a step. -/
def event : Step → Event
  | say line => said line
  | ask c reply _ => called c reply

/-- The reply in a step lets the attempt go on. -/
def Succeeds : Step → Prop
  | say _ => True
  | ask _ reply setback? => setback? reply = none

end Step

/-- Everything in a script has happened. -/
def Completes (script : List Step) (es : List Event) : Prop :=
  (∀ step ∈ script, step.Succeeds) ∧ es = script.map Step.event

/-- A script was followed until a reply was a setback. -/
inductive Stops : List Step → List Event → LaunchError → Prop where
  | here {c : Call} {expected : c.Reply} {setback? : c.Reply → Option Setback} {rest : List Step}
      (reply : c.Reply) {s : Setback} (hs : setback? reply = some s) :
      Stops (.ask c expected setback? :: rest) (called c reply :: s.lines.map said) s.error
  | later {step : Step} {rest : List Step} {es : List Event} {e : LaunchError}
      (hstep : step.Succeeds) (h : Stops rest es e) : Stops (step :: rest) (step.event :: es) e

section Composition

variable {script rest : List Step} {es es' : List Event} {e : LaunchError}

lemma Completes.nil : Completes [] [] := ⟨by simp, rfl⟩

lemma Completes.cons {step : Step} (hstep : step.Succeeds) (h : Completes rest es) :
    Completes (step :: rest) (step.event :: es) := by
  refine ⟨?_, by simp [h.2]⟩
  simp only [List.mem_cons, forall_eq_or_imp]
  exact ⟨hstep, h.1⟩

lemma completes_say (lines : List String) :
    Completes (lines.map .say) (lines.map said) := by
  constructor
  · intro step hstep
    obtain ⟨line, -, rfl⟩ := List.mem_map.mp hstep
    trivial
  · rw [List.map_map]
    rfl

lemma Completes.append (h : Completes script es) (h' : Completes rest es') :
    Completes (script ++ rest) (es ++ es') := by
  refine ⟨?_, by simp [h.2, h'.2]⟩
  intro step hstep
  rcases List.mem_append.mp hstep with hmem | hmem
  · exact h.1 step hmem
  · exact h'.1 step hmem

lemma not_stops_nil : ¬ Stops [] es e := by
  rintro ⟨⟩

/-- A setback without a line about it. -/
lemma Stops.silently {c : Call} {expected : c.Reply} {setback? : c.Reply → Option Setback}
    (reply : c.Reply) (h : setback? reply = some { error := e }) :
    Stops (.ask c expected setback? :: rest) [called c reply] e :=
  .here (s := { error := e }) reply h

lemma Completes.append_cases (h : Completes (script ++ rest) es) :
    ∃ es₁ es₂, Completes script es₁ ∧ Completes rest es₂ ∧ es = es₁ ++ es₂ := by
  obtain ⟨hgood, rfl⟩ := h
  have hscript : ∀ step ∈ script, step.Succeeds := fun step hstep =>
    hgood step (List.mem_append_left _ hstep)
  have hrest : ∀ step ∈ rest, step.Succeeds := fun step hstep =>
    hgood step (List.mem_append_right _ hstep)
  exact ⟨_, _, ⟨hscript, rfl⟩, ⟨hrest, rfl⟩, List.map_append⟩

/-- What comes after a setback in a script does not matter. -/
lemma Stops.append_right (h : Stops script es e) (rest : List Step) :
    Stops (script ++ rest) es e := by
  induction h with
  | here reply hs => exact .here reply hs
  | later hstep _ ih => exact .later hstep ih

lemma Completes.append_stops (h : Completes script es) (h' : Stops rest es' e) :
    Stops (script ++ rest) (es ++ es') e := by
  obtain ⟨hgood, rfl⟩ := h
  induction script with
  | nil => exact h'
  | cons step script ih =>
      simp only [List.mem_cons, forall_eq_or_imp] at hgood
      exact .later hgood.1 (ih hgood.2)

/-- A script in two parts stops in the first one, or completes it and stops in the second one. -/
lemma Stops.append_cases (h : Stops (script ++ rest) es e) :
    Stops script es e
      ∨ ∃ es₁ es₂, Completes script es₁ ∧ Stops rest es₂ e ∧ es = es₁ ++ es₂ := by
  induction script generalizing es with
  | nil => exact .inr ⟨[], es, .nil, h, rfl⟩
  | cons step script ih =>
      cases h with
      | here reply hs => exact .inl (.here reply hs)
      | later hstep h =>
          rcases ih h with h | ⟨es₁, es₂, hdone, hstop, rfl⟩
          · exact .inl (.later hstep h)
          · exact .inr ⟨_, es₂, .cons hstep hdone, hstop, rfl⟩

lemma stops_ask_iff {c : Call} {expected : c.Reply} {setback? : c.Reply → Option Setback} :
    Stops [.ask c expected setback?] es e
      ↔ ∃ reply s, setback? reply = some s ∧ es = called c reply :: s.lines.map said
          ∧ e = s.error := by
  constructor
  · rintro (⟨reply, hs⟩ | ⟨-, ⟨⟩⟩)
    exact ⟨reply, _, hs, rfl, rfl⟩
  · rintro ⟨reply, s, hs, rfl, rfl⟩
    exact .here reply hs

/-- A property of whatever can happen in a step. -/
def Step.Always (P : Event → Prop) : Step → Prop
  | say line => P (said line)
  | ask c _ _ => ∀ reply, P (called c reply)

variable {P Q : Event → Prop}

lemma Step.Always.mono {step : Step} (h : step.Always P) (himp : ∀ x, P x → Q x) :
    step.Always Q := by
  cases step with
  | say line => exact himp _ h
  | ask c reply setback? => exact fun reply => himp _ (h reply)

lemma Completes.forall_mem (h : Completes script es) (hP : ∀ step ∈ script, step.Always P) :
    ∀ x ∈ es, P x := by
  obtain ⟨-, rfl⟩ := h
  intro x hx
  obtain ⟨step, hstep, rfl⟩ := List.mem_map.mp hx
  cases step with
  | say line => exact hP _ hstep
  | ask c reply setback? => exact hP _ hstep reply

lemma Stops.forall_mem (h : Stops script es e) (hsaid : ∀ line, P (said line))
    (hP : ∀ step ∈ script, step.Always P) : ∀ x ∈ es, P x := by
  induction h with
  | here reply hs =>
      intro x hx
      rcases List.mem_cons.mp hx with rfl | hx
      · exact hP _ List.mem_cons_self reply
      · obtain ⟨line, -, rfl⟩ := List.mem_map.mp hx
        exact hsaid line
  | @later step rest es e hstep h ih =>
      intro x hx
      rcases List.mem_cons.mp hx with rfl | hx
      · cases step with
        | say line => exact hsaid line
        | ask c reply setback? => exact hP _ List.mem_cons_self reply
      · exact ih (fun step hmem => hP step (by simp [hmem])) x hx

end Composition

/-! ## Following a script -/

/-- **Following a script.**  `R script a` says that `script` leads to the result `a`.  Whatever the
replies are, the stage completes such a script and has its result, or it stops in one. -/
structure Follows {α : Type} (x : Stage α) (R : List Step → α → Prop) : Prop where
  /-- There is something to follow. -/
  possible : ∃ script a, R script a
  course : ∀ es o, Transcript x.run es o →
    (∃ script a, R script a ∧ Completes script es ∧ o = some (.ok a))
      ∨ ∃ script a e, R script a ∧ Stops script es e ∧ o = some (.error e)

namespace Follows

variable {α β : Type} {x : Stage α} {R R' : List Step → α → Prop}

lemma mono (h : Follows x R) (himp : ∀ script a, R script a → R' script a) : Follows x R' where
  possible := by
    obtain ⟨script, a, hR⟩ := h.possible
    exact ⟨script, a, himp script a hR⟩
  course es o ht := by
    rcases h.course es o ht with ⟨script, a, hR, hc, ho⟩ | ⟨script, a, e, hR, hs, ho⟩
    · exact .inl ⟨script, a, himp _ _ hR, hc, ho⟩
    · exact .inr ⟨script, a, e, himp _ _ hR, hs, ho⟩

lemma pure (a : α) : Follows (Pure.pure a) fun script b => script = [] ∧ b = a where
  possible := ⟨[], a, rfl, rfl⟩
  course es o ht := by
    obtain ⟨rfl, rfl⟩ := transcript_run_pure_iff.mp ht
    exact .inl ⟨[], a, ⟨rfl, rfl⟩, .nil, rfl⟩

/-- **Sequencing.**  One script after another; the second one may depend on the first one's
result. -/
lemma bind {f : α → Stage β} {T : α → List Step → β → Prop} (hx : Follows x R)
    (hf : ∀ a, Follows (f a) (T a)) :
    Follows (x >>= f)
      fun script b => ∃ first a second, R first a ∧ T a second b ∧ script = first ++ second where
  possible := by
    obtain ⟨first, a, hR⟩ := hx.possible
    obtain ⟨second, b, hT⟩ := (hf a).possible
    exact ⟨_, b, first, a, second, hR, hT, rfl⟩
  course es o ht := by
    rcases transcript_run_bind_iff.mp ht with
      ⟨first, a, second, hfirst, hsecond, rfl⟩ | ⟨e, hfirst, rfl⟩ | ⟨hfirst, rfl⟩
    · rcases hx.course first _ hfirst with ⟨s, a', hR, hc, ho⟩ | ⟨s, a', e, hR, hs, ho⟩
      · obtain rfl : a = a' := by simpa using ho
        rcases (hf a).course second o hsecond with
          ⟨s', b, hT, hc', rfl⟩ | ⟨s', b, e, hT, hs', rfl⟩
        · exact .inl ⟨s ++ s', b, ⟨s, a, s', hR, hT, rfl⟩, hc.append hc', rfl⟩
        · exact .inr ⟨s ++ s', b, e, ⟨s, a, s', hR, hT, rfl⟩, hc.append_stops hs', rfl⟩
      · simp at ho
    · rcases hx.course es _ hfirst with ⟨s, a', hR, hc, ho⟩ | ⟨s, a, e', hR, hs, ho⟩
      · simp at ho
      · obtain rfl : e = e' := by simpa using ho
        obtain ⟨s', b, hT⟩ := (hf a).possible
        exact .inr ⟨s ++ s', b, e, ⟨s, a, s', hR, hT, rfl⟩, hs.append_right s', rfl⟩
    · rcases hx.course es _ hfirst with ⟨s, a, hR, hc, ho⟩ | ⟨s, a, e, hR, hs, ho⟩
      · simp at ho
      · simp at ho

/-! ### Single steps -/

lemma log (line : String) :
    Follows (liftM (Attempt.log line)) fun script _ => script = [.say line] where
  possible := ⟨_, (), rfl⟩
  course es o ht := by
    obtain ⟨rfl, rfl⟩ := transcript_stage_log_iff.mp ht
    exact .inl ⟨_, (), rfl, .cons trivial .nil, rfl⟩

/-- A call all of whose replies let the attempt go on. -/
lemma call (c : Call) [Inhabited c.Reply] :
    Follows (liftM (Attempt.call c)) fun script reply =>
      script = [.ask c reply fun _ => none] where
  possible := ⟨_, default, rfl⟩
  course es o ht := by
    obtain ⟨reply, rfl, rfl⟩ := transcript_stage_call_iff.mp ht
    exact .inl ⟨_, reply, rfl, .cons rfl .nil, rfl⟩

end Follows

/-- The setbacks of a call whose errors end the attempt. -/
def failing {ε α : Type} (toError : ε → LaunchError) : Except ε α → Option Setback
  | .ok _ => none
  | .error e => some { error := toError e }

namespace Follows

/-- **A call that may fail.**  Its replies are results and errors, up to their type. -/
lemma orFail {ε α : Type} [Inhabited α] (toError : ε → LaunchError)
    {activity : Activity (Except ε α)} (c : Call) (reply : Except ε α → c.Reply)
    (view : c.Reply → Except ε α) (hview : ∀ r, view (reply r) = r)
    (hcall : ∀ es o, Transcript activity es o → ∃ r, es = [called c (reply r)] ∧ o = some r) :
    Follows (Attempt.orFail toError activity) fun script a =>
      script = [.ask c (reply (.ok a)) fun r => failing toError (view r)] where
  possible := ⟨_, default, rfl⟩
  course es o ht := by
    obtain ⟨_, hactivity, rfl⟩ := transcript_orFail_iff.mp ht
    obtain ⟨e | a, rfl, rfl⟩ := hcall es _ hactivity
    · have hsetback : failing toError (view (reply (.error e))) = some { error := toError e } := by
        rw [hview, failing]
      exact .inr ⟨_, default, toError e, rfl, .silently _ hsetback, rfl⟩
    · have hgood : failing toError (view (reply (.ok a))) = none := by
        rw [hview, failing]
      exact .inl ⟨_, a, rfl, .cons hgood .nil, rfl⟩

lemma execute (command : String) (limit : Option Nat) :
    Follows (Attempt.execute command limit) fun script process =>
      script = [.ask (.execute command limit) (.ok process) (failing .transport)] :=
  .orFail .transport (.execute command limit) id id (fun _ => rfl)
    fun _ _ => transcript_call_iff.mp

lemma putFile (path : String) (contents : Bytes) :
    Follows (Attempt.putFile path contents) fun script _ =>
      script = [.ask (.putFile path contents) (.ok ()) (failing .transport)] :=
  .orFail .transport (.putFile path contents) id id (fun _ => rfl)
    fun _ _ => transcript_call_iff.mp

lemma fileExists (path : String) :
    Follows (Attempt.fileExists path) fun script found =>
      script = [.ask (.fileExists path) (.ok found) (failing .transport)] :=
  .orFail .transport (.fileExists path) id id (fun _ => rfl)
    fun _ _ => transcript_call_iff.mp

end Follows

end AgentLaunch.Attempt
