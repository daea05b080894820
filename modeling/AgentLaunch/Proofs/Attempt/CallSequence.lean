import AgentLaunch.Proofs.Attempt.Launch
import Mathlib.Data.List.Basic

/-!
# The order of an attempt's calls

After a successful wait an attempt follows its canonical sequence up to the first step that fails,
and does nothing afterwards but clean up.  Which of the three outcomes it has depends on where it
stopped: at the end of the sequence, at a check of the deadline, or anywhere else.

The canonical sequence itself belongs to `CanonicalScript`, which also shows that each stage follows
it.  What is added here is the other direction, from an outcome back to what has happened.  A
channel is bound in the last step of a completed sequence and nowhere else, so an attempt that has
established a channel has completed the sequence, and one that has stopped has not (`Unbound`).

* `EndsLate` — a wait that its deadline has ended.
* `InSequence` — an attempt in its two parts, with the outcome that belongs to them.
* **`launch_inSequence`** — every attempt is of this kind, whatever the surroundings do.

A timeout is told from other failures by the last event of the wait.  A wait that ends late ends
with a look at the clock, or with the end of the session right after it (`endsInCheck`), and by
induction on its loops no other wait does.  The time that is reported is the difference of two
looks, the first and the last one, and therefore determined by the events (`EndsLate.unique`).
-/

namespace AgentLaunch.Attempt

open Dialogue

/-! ## With a session that is ready -/

section Sequence

variable {plan : LaunchPlan} {es : List Event}

/-- What handing an agent over adds to the canonical sequence. -/
lemma channelScript_handsOver {agent : ProcessId} {name : String} {r : Except LaunchError Unit}
    (h : HandsOver agent name es r) :
    ∃ hasOutput hasInput channel first after, es = first ++ after
      ∧ ((r = .ok () ∧ Completes (channelScript name agent hasOutput hasInput channel) first
            ∧ ∀ q ∈ requests after, q.Final)
        ∨ ∃ e, r = .error e ∧ Stops (channelScript name agent hasOutput hasInput channel) first e
            ∧ ∀ q ∈ requests after, q.CleansUp) := by
  cases h with
  | @noStreams hasOutput hasInput rest hmissing hrest =>
      have hstop : Stops (channelScript name agent hasOutput hasInput {})
          [called (.takeStdout agent) hasOutput, called (.takeStdin agent) hasInput]
          streamsMissing :=
        .later rfl (.silently (c := .takeStdin agent) hasInput (if_neg (by simp [hmissing])))
      refine ⟨hasOutput, hasInput, {}, _, rest, rfl, .inr ⟨_, rfl, hstop, ?_⟩⟩
      rw [hrest]
      exact cleansUp_tearDownRequests agent
  | @offered channel rest hrest =>
      refine ⟨true, true, channel,
        [called (.takeStdout agent) true, called (.takeStdin agent) true,
          called (.bind name) channel], rest, rfl, ?_⟩
      rw [hrest]
      cases hverdict : channel.verdict with
      | ok =>
          refine .inl ⟨rfl, ?_, final_requestsAfterBind name agent channel⟩
          exact .cons rfl (.cons rfl (.cons (refusal?_of_ok hverdict) .nil))
      | error e =>
          refine .inr ⟨e, rfl, ?_, cleansUp_requestsAfterBind hverdict name agent⟩
          exact .later rfl (.later rfl
            (.silently (c := .bind name) channel (refusal?_of_error hverdict)))

lemma cleansUp_farewell (e : LaunchError) : ∀ q ∈ requests (farewell e), q.CleansUp := by
  cases e <;> simp [farewell, requests, said, Request.CleansUp]

/-- The canonical sequence, completed or stopped, and what comes after it. -/
lemma canonicalScript_usesSession {outcome : Outcome} (h : UsesSession plan es outcome) :
    ∃ a first after, es = first ++ after
      ∧ ((Completes (canonicalScript plan a) first ∧ (∀ q ∈ requests after, q.Final)
            ∧ outcome = .channelEstablished)
        ∨ ∃ e, Stops (canonicalScript plan a) first e ∧ (∀ q ∈ requests after, q.CleansUp)
            ∧ outcome = .aborted e.message) := by
  cases h with
  | @notProvisioned a es e hstop =>
      refine ⟨a, es, _, rfl, .inr ⟨e, hstop.append_right _, ?_, rfl⟩⟩
      intro q hq
      rcases List.mem_cons.mp hq with rfl | hq
      · trivial
      · exact cleansUp_farewell e q hq
  | @provisioned a es es' r hdone hhand =>
      obtain ⟨hasOutput, hasInput, channel, first, after, rfl, hend⟩ :=
        channelScript_handsOver hhand
      refine ⟨{ a with hasOutput, hasInput, channel }, es ++ first, after ++ farewellOf r,
        by simp, ?_⟩
      rcases hend with ⟨rfl, hcompletes, hfinal⟩ | ⟨e, rfl, hstops, hclean⟩
      · refine .inl ⟨hdone.append hcompletes, ?_, rfl⟩
        simpa [farewellOf] using hfinal
      · refine .inr ⟨e, hdone.append_stops hstops, ?_, rfl⟩
        intro q hq
        rw [requests_append] at hq
        rcases List.mem_append.mp hq with hq | hq
        · exact hclean q hq
        · exact cleansUp_farewell e q hq

/-- An event that is no bound channel. -/
def Unbound (x : Event) : Prop :=
  ∀ name (reply : BindReply), x = called (.bind name) reply → reply.verdict ≠ .ok ()

lemma unbound_of_request {x : Event} (h : ∀ name, x.request ≠ .call (.bind name)) :
    Unbound x := by
  rintro name reply rfl
  exact absurd rfl (h name)

/-- A completed sequence has bound the channel. -/
lemma bound_of_completes {a : Answers} (h : Completes (canonicalScript plan a) es) :
    ∃ x ∈ es, ¬ Unbound x := by
  obtain ⟨hgood, rfl⟩ := h
  have hmem : bindStep plan.displayName a.channel ∈ canonicalScript plan a := by
    simp [canonicalScript_eq]
  refine ⟨_, List.mem_map.mpr ⟨_, hmem, rfl⟩, fun hunbound => ?_⟩
  have hsucceeds := hgood _ hmem
  cases hverdict : a.channel.verdict with
  | ok => exact hunbound _ a.channel rfl hverdict
  | error e => simp [bindStep, Step.Succeeds, refusal?_of_error hverdict] at hsucceeds

lemma unbound_said (line : String) : Unbound (said line) :=
  unbound_of_request fun _ => by simp [said]

/-- Every step but the last one leaves the channel alone. -/
lemma unbound_beforeBind (plan : LaunchPlan) (a : Answers) :
    ∀ step ∈ provisionScript plan a ++ streamsScript a.agent a.hasOutput a.hasInput,
      step.Always Unbound := by
  have hcall : ∀ {c : Call} {reply : c.Reply}, (∀ name, c ≠ .bind name) →
      Unbound (called c reply) :=
    fun hc => unbound_of_request fun name => by simpa [called] using hc name
  intro step hstep
  rw [provisionScript_eq] at hstep
  simp only [List.mem_append, List.mem_singleton] at hstep
  rcases hstep with (hbefore | rfl) | hstreams
  · have hprepares := prepares_beforeAgent plan a step (List.mem_append.mpr hbefore)
    cases step with
    | say line => exact unbound_said line
    | ask c expected setback? =>
        intro reply
        refine hcall ?_
        rintro name rfl
        exact hprepares
  · exact fun reply => hcall (by simp)
  · have hall : ∀ step ∈ streamsScript a.agent a.hasOutput a.hasInput, step.Always Unbound := by
      simp only [streamsScript, List.forall_mem_cons]
      exact ⟨fun reply => hcall (by simp), fun reply => hcall (by simp), by simp⟩
    exact hall step hstreams

/-- A sequence that has stopped has not bound the channel. -/
lemma unbound_of_stops {a : Answers} {e : LaunchError} (h : Stops (canonicalScript plan a) es e) :
    ∀ x ∈ es, Unbound x := by
  rw [canonicalScript_eq] at h
  rcases h.append_cases with hstop | ⟨es₁, es₂, hdone, hstop, rfl⟩
  · exact hstop.forall_mem unbound_said (unbound_beforeBind plan a)
  · obtain ⟨reply, setback, hsetback, rfl, -⟩ := stops_ask_iff.mp hstop
    intro x hx
    rcases List.mem_append.mp hx with hx | hx
    · exact hdone.forall_mem (unbound_beforeBind plan a) x hx
    · rcases List.mem_cons.mp hx with rfl | hx
      · rintro name reply' heq hok
        cases heq
        simp [refusal?_of_ok hok] at hsetback
      · obtain ⟨line, -, rfl⟩ := List.mem_map.mp hx
        exact unbound_said line

lemma unbound_of_cleansUp {x : Event} (h : x.request.CleansUp) : Unbound x := by
  refine unbound_of_request fun name hname => ?_
  rw [hname] at h
  exact h

end Sequence

/-! ## The end of the wait -/

/-- The wait has ended with a look at the clock that came too late; a session that there was then
has been closed. -/
def EndsLate (plan : LaunchPlan) (waited : List Event) (secs : Nat) : Prop :=
  ∃ start t between,
    (waited = looked start :: between ++ [looked t]
      ∨ waited = looked start :: between ++ [looked t, called .closeSession ()])
    ∧ plan.deadline < t - start ∧ secs = (t - start) / 1000

/-- A look at the clock, or the end of a session. -/
def isCheck : Event → Bool
  | ⟨.elapsed, _⟩ => true
  | ⟨.call .closeSession, _⟩ => true
  | _ => false

/-- The last event is of this kind. -/
def endsInCheck (es : List Event) : Bool := es.getLast?.any isCheck

lemma endsInCheck_append_cons (es : List Event) (x : Event) (es' : List Event) :
    endsInCheck (es ++ x :: es') = endsInCheck (x :: es') := by
  rw [endsInCheck, endsInCheck, List.getLast?_append, List.getLast?_cons, Option.some_or]

lemma endsInCheck_cons {x : Event} (hx : isCheck x = false) (es : List Event) :
    endsInCheck (x :: es) = endsInCheck es := by
  cases es with
  | nil => simp [endsInCheck, hx]
  | cons y es => simp [endsInCheck]

lemma endsInCheck_append {es es' : List Event} (h : endsInCheck es = false)
    (h' : endsInCheck es' = false) : endsInCheck (es ++ es') = false := by
  cases es' with
  | nil => rwa [List.append_nil]
  | cons x es' => rwa [endsInCheck_append_cons]

section Waits

variable {plan : LaunchPlan} {es : List Event}

lemma endsInCheck_findsCredentials {r : Except LaunchError Resolution}
    (h : FindsCredentials plan es r) : endsInCheck es = false := by
  have hwarning : endsInCheck (identityWarning plan) = false := by
    unfold identityWarning
    split <;> rfl
  cases h with
  | supplied => rfl
  | notSupplied => rfl
  | unavailable => rfl
  | notGenerated => rfl
  | undecryptable => rfl
  | derived => exact (endsInCheck_cons rfl _).trans ((endsInCheck_cons rfl _).trans hwarning)

/-- A resolution pass does something, and a check comes never last. -/
lemma endsInCheck_resolutionPass {r : Except LaunchError (Option SessionTarget)}
    (h : ResolutionPass plan es r) : ∃ x es', es = x :: es' ∧ endsInCheck (x :: es') = false := by
  cases h with
  | undescribed => exact ⟨_, _, rfl, rfl⟩
  | unassigned => exact ⟨_, _, rfl, rfl⟩
  | pending _ hfinds =>
      exact ⟨_, _, rfl, (endsInCheck_cons rfl _).trans (endsInCheck_findsCredentials hfinds)⟩
  | failed _ hfinds =>
      exact ⟨_, _, rfl, (endsInCheck_cons rfl _).trans (endsInCheck_findsCredentials hfinds)⟩
  | opened =>
      refine ⟨_, _, List.cons_append, ?_⟩
      rw [← List.cons_append, endsInCheck_append_cons]
      rfl

/-- How a search ends: late, or otherwise. -/
lemma search_ends {deadline : Deadline} {rounds : Nat}
    {o : Option (Except LaunchError SessionTarget)} (h : Search plan deadline rounds es o) :
    (∃ front t, es = front ++ [looked t] ∧ deadline.limit < t - deadline.start
        ∧ o = some (.error (timedOut (t - deadline.start))))
      ∨ (∀ secs, o ≠ some (.error (.timeout secs))) ∧ endsInCheck es = false := by
  induction h with
  | outOfRounds => exact .inr ⟨by simp, rfl⟩
  | late ht => exact .inl ⟨[], _, rfl, ht, rfl⟩
  | opened _ hpass =>
      obtain ⟨x, es', rfl, hend⟩ := endsInCheck_resolutionPass (.of_transcript hpass)
      exact .inr ⟨by simp, (endsInCheck_append_cons [looked _] _ _).trans hend⟩
  | failed _ hpass =>
      have hpass := ResolutionPass.of_transcript hpass
      obtain ⟨x, es', rfl, hend⟩ := endsInCheck_resolutionPass hpass
      refine .inr ⟨?_, (endsInCheck_append_cons [looked _] _ _).trans hend⟩
      intro secs hsecs
      exact hpass.ne_timeout secs (by simpa using hsecs)
  | @again _ t _ pass rest _ _ _ ih =>
      rcases ih with ⟨front, t', rfl, hlate, rfl⟩ | ⟨hno, hend⟩
      · exact .inl ⟨looked t :: pass ++ slept plan.retryInterval :: front, t', by simp, hlate, rfl⟩
      · refine .inr ⟨hno, ?_⟩
        rw [endsInCheck_append_cons, endsInCheck_cons rfl, hend]

/-- How the wait for a session ends: late, or otherwise. -/
lemma wait_ends {deadline : Deadline} {rounds : Nat} {stabilized : Bool}
    {o : Option (Except LaunchError Unit)} (h : Wait plan deadline rounds stabilized es o) :
    (∃ front t, es = front ++ [looked t, called .closeSession ()]
        ∧ deadline.limit < t - deadline.start
        ∧ o = some (.error (timedOut (t - deadline.start))))
      ∨ (∀ e, o ≠ some (.error e)) ∧ endsInCheck es = false := by
  induction h with
  | outOfRounds => exact .inr ⟨by simp, rfl⟩
  | late ht => exact .inl ⟨[], _, rfl, ht, rfl⟩
  | ready => exact .inr ⟨by simp, (endsInCheck_append_cons _ _ _).trans rfl⟩
  | @again _ _ _ t _ pass rest _ _ _ ih =>
      rcases ih with ⟨front, t', rfl, hlate, rfl⟩ | ⟨hno, hend⟩
      · exact .inl ⟨looked t :: pass ++ slept plan.retryInterval :: front, t', by simp, hlate, rfl⟩
      · refine .inr ⟨hno, ?_⟩
        rw [endsInCheck_append_cons, endsInCheck_cons rfl, hend]

/-- How a whole wait ends: late, or otherwise. -/
lemma establishment_ends {rounds : Nat} {o : Option (Except LaunchError SessionTarget)}
    (h : Establishment plan rounds es o) :
    (∃ secs, EndsLate plan es secs ∧ o = some (.error (.timeout secs)))
      ∨ (∀ secs, o ≠ some (.error (.timeout secs))) ∧ endsInCheck es = false := by
  cases h with
  | @unresolved start now es o _ hsearch =>
      rcases search_ends hsearch with ⟨front, t, rfl, hlate, rfl⟩ | ⟨hno, hend⟩
      · refine .inl ⟨_,
          ⟨start, t, (opening plan start now).tail ++ front, .inl ?_, hlate, rfl⟩, rfl⟩
        simp [opening]
      · exact .inr ⟨hno, endsInCheck_append rfl hend⟩
  | @resolved start now es es' target o hsearch hwait =>
      rcases wait_ends hwait with ⟨front, t, rfl, hlate, rfl⟩ | ⟨hno, hend'⟩
      · refine .inl ⟨_,
          ⟨start, t, (opening plan start now).tail ++ es ++ front, .inr ?_, hlate, rfl⟩, rfl⟩
        simp [opening]
      · rcases search_ends hsearch with ⟨_, _, -, -, ho⟩ | ⟨-, hend⟩
        · simp at ho
        · refine .inr ⟨?_, endsInCheck_append (endsInCheck_append rfl hend) hend'⟩
          intro secs hsecs
          rcases o with _ | e | _
          · simp at hsecs
          · exact hno e rfl
          · simp [Except.map] at hsecs

end Waits

section EndsLate

variable {plan : LaunchPlan} {waited : List Event} {secs secs' : Nat}

lemma EndsLate.endsInCheck (h : EndsLate plan waited secs) : endsInCheck waited = true := by
  obtain ⟨start, t, between, rfl | rfl, -⟩ := h
  · rw [endsInCheck_append_cons]
    rfl
  · rw [endsInCheck_append_cons]
    rfl

lemma looked_inj {t t' : Nat} (h : looked t = looked t') : t = t' := by
  simpa [looked] using h

/-- The first and the last look at the clock tell the time waited. -/
lemma EndsLate.unique (h : EndsLate plan waited secs) (h' : EndsLate plan waited secs') :
    secs = secs' := by
  obtain ⟨start, t, between, hwaited, -, rfl⟩ := h
  obtain ⟨start', t', between', hwaited', -, rfl⟩ := h'
  have hclose : ∀ t, looked t ≠ called .closeSession () := by simp [looked, called]
  rcases hwaited with rfl | rfl <;> rcases hwaited' with heq | heq
  · obtain ⟨hfront, hlast⟩ := List.append_inj' heq rfl
    rw [looked_inj (List.cons.inj hfront).1, looked_inj (List.cons.inj hlast).1]
  · have hlast := congrArg List.getLast? heq
    rw [List.getLast?_append, List.getLast?_append] at hlast
    simp [hclose] at hlast
  · have hlast := congrArg List.getLast? heq
    rw [List.getLast?_append, List.getLast?_append] at hlast
    simp [(hclose _).symm] at hlast
  · obtain ⟨hfront, hlast⟩ := List.append_inj' heq rfl
    rw [looked_inj (List.cons.inj hfront).1, looked_inj (List.cons.inj hlast).1]

/-- A wait fails because of the time exactly if it ends late. -/
lemma timeout_iff_endsLate {rounds : Nat} {o : Option (Except LaunchError SessionTarget)}
    (h : Establishment plan rounds waited o) :
    o = some (.error (.timeout secs)) ↔ EndsLate plan waited secs := by
  rcases establishment_ends h with ⟨secs', hlate, rfl⟩ | ⟨hno, hend⟩
  · constructor
    · intro ho
      obtain rfl : secs' = secs := by simpa using ho
      exact hlate
    · intro hlate'
      rw [hlate.unique hlate']
  · refine ⟨fun ho => absurd ho (hno secs), fun hlate => ?_⟩
    rw [hlate.endsInCheck] at hend
    simp at hend

end EndsLate

/-! ## A whole attempt -/

/-- **An attempt in order**: its wait with the wait's result, what follows, and the outcome. -/
structure InSequence (plan : LaunchPlan) (waited : List Event)
    (ready : Option (Except LaunchError SessionTarget)) (rest : List Event)
    (o : Option Outcome) : Prop where
  /-- A ready session is used in the canonical order, up to the first step that fails.  After that
  there is only cleaning up. -/
  sequence : ∀ target, ready = some (.ok target) → ∃ a used after, rest = used ++ after
    ∧ ((Completes (canonicalScript plan a) used ∧ (∀ q ∈ requests after, q.Final)
        ∧ o = some .channelEstablished)
      ∨ ∃ e, Stops (canonicalScript plan a) used e ∧ (∀ q ∈ requests after, q.CleansUp)
        ∧ o = some (.aborted e.message))
  /-- Without one there is at most a line about it. -/
  silent : (∀ target, ready ≠ some (.ok target)) → ∀ q ∈ requests rest, ∃ line, q = .log line
  established_iff : o = some .channelEstablished ↔
    ∃ a used after, Completes (canonicalScript plan a) used ∧ rest = used ++ after
  timedOut_iff : ∀ secs, o = some (.timedOut secs) ↔ EndsLate plan waited secs
  /-- Every other attempt is aborted, if its wait comes to an end.  The error is the wait's own if
  that has failed, and the one of the step that has failed otherwise. -/
  aborted : ready ≠ none → o ≠ some .channelEstablished → (∀ secs, o ≠ some (.timedOut secs)) →
    ∃ e : LaunchError, o = some (.aborted e.message)
      ∧ (ready = some (.error e)
        ∨ ∃ target a used after, ready = some (.ok target)
          ∧ Stops (canonicalScript plan a) used e ∧ rest = used ++ after)

section Conclusions

variable {plan : LaunchPlan} {rounds : Nat} {waited rest : List Event}

/-- Without a bound channel the canonical sequence is not complete. -/
lemma not_completes_of_unbound (h : ∀ x ∈ rest, Unbound x) :
    ¬ ∃ a used after, Completes (canonicalScript plan a) used ∧ rest = used ++ after := by
  rintro ⟨a, used, after, hdone, rfl⟩
  obtain ⟨x, hx, hbound⟩ := bound_of_completes hdone
  exact hbound (h x (List.mem_append_left _ hx))

lemma unbound_of_requests (h : ∀ q ∈ requests rest, q.CleansUp) : ∀ x ∈ rest, Unbound x :=
  fun x hx => unbound_of_cleansUp (h x.request (List.mem_map.mpr ⟨x, hx, rfl⟩))

lemma log_of_farewell (e : LaunchError) : ∀ q ∈ requests (farewell e), ∃ line, q = .log line := by
  cases e <;> simp [farewell, requests, said]

lemma inSequence_of_unfinished (hwait : Establishment plan rounds waited none) :
    InSequence plan waited none [] none where
  sequence := by simp
  silent := by simp [requests]
  established_iff := iff_of_false (by simp) (not_completes_of_unbound (by simp))
  timedOut_iff secs := by
    rw [← timeout_iff_endsLate hwait]
    simp
  aborted := by simp

lemma inSequence_of_late {secs : Nat}
    (hwait : Establishment plan rounds waited (some (.error (.timeout secs)))) :
    InSequence plan waited (some (.error (.timeout secs)))
      [said (LaunchError.timeout secs).message] (some (.timedOut secs)) where
  sequence := by simp
  silent := by simp [requests, said]
  established_iff := by
    refine iff_of_false (by simp) (not_completes_of_unbound ?_)
    simpa using unbound_said (LaunchError.timeout secs).message
  timedOut_iff secs' := by
    rw [← timeout_iff_endsLate hwait]
    simp
  aborted := by simp

lemma inSequence_of_failed {e : LaunchError} (he : ∀ secs, e ≠ .timeout secs)
    (hwait : Establishment plan rounds waited (some (.error e))) :
    InSequence plan waited (some (.error e)) (farewell e) (some (.aborted e.message)) where
  sequence := by simp
  silent := fun _ => log_of_farewell e
  established_iff := iff_of_false (by simp)
    (not_completes_of_unbound (unbound_of_requests (cleansUp_farewell e)))
  timedOut_iff secs := by
    rw [← timeout_iff_endsLate hwait]
    simp [he secs]
  aborted := fun _ _ _ => ⟨e, rfl, .inl rfl⟩

lemma inSequence_of_used {target : SessionTarget} {outcome : Outcome}
    (hwait : Establishment plan rounds waited (some (.ok target)))
    (huse : UsesSession plan rest outcome) :
    InSequence plan waited (some (.ok target)) rest (some outcome) := by
  have hnever : ∀ secs, ¬ EndsLate plan waited secs := fun secs hlate => by
    have ho := (timeout_iff_endsLate hwait).mpr hlate
    simp at ho
  obtain ⟨a, used, after, rfl, hend⟩ := canonicalScript_usesSession huse
  refine ⟨fun _ _ => ⟨a, used, after, rfl, ?_⟩, ?_, ?_, ?_, ?_⟩
  · simpa using hend
  · exact fun hno => absurd rfl (hno target)
  · rcases hend with ⟨hdone, -, rfl⟩ | ⟨e, hstop, hclean, rfl⟩
    · exact iff_of_true rfl ⟨a, used, after, hdone, rfl⟩
    · refine iff_of_false (by simp) (not_completes_of_unbound ?_)
      intro x hx
      rcases List.mem_append.mp hx with hx | hx
      · exact unbound_of_stops hstop x hx
      · exact unbound_of_requests hclean x hx
  · intro secs
    refine iff_of_false ?_ (hnever secs)
    rcases hend with ⟨-, -, rfl⟩ | ⟨e, -, -, rfl⟩ <;> simp
  · intro _ hno _
    rcases hend with ⟨-, -, rfl⟩ | ⟨e, hstop, -, rfl⟩
    · exact absurd rfl hno
    · exact ⟨e, rfl, .inr ⟨target, a, used, after, rfl, hstop, rfl⟩⟩

lemma inSequence_of_concluded {r : Except LaunchError SessionTarget} {outcome : Outcome}
    (hwait : Establishment plan rounds waited (some r)) (h : Concludes plan r rest outcome) :
    InSequence plan waited (some r) rest (some outcome) := by
  cases h with
  | timedOut => exact inSequence_of_late hwait
  | failed he => exact inSequence_of_failed he hwait
  | connected huse => exact inSequence_of_used hwait huse

end Conclusions

/-- **The order of an attempt's calls.**  Whatever the surroundings do, an attempt is its wait and
then, if there is a session, the canonical sequence up to the first failure and cleaning up; and
its outcome says which of its parts has come to which end. -/
theorem launch_inSequence {σ : Type} (plan : LaunchPlan) (rounds : Nat) (world : Surroundings σ)
    (scene : Scene σ) :
    ∃ rest,
      (world.run (launch plan rounds) scene).events
          = (world.run (establish plan rounds).run scene).events ++ rest
        ∧ InSequence plan (world.run (establish plan rounds).run scene).events
            (world.run (establish plan rounds).run scene).result rest
            (world.run (launch plan rounds) scene).result := by
  have hwait : Establishment plan rounds (world.run (establish plan rounds).run scene).events
      (world.run (establish plan rounds).run scene).result :=
    transcript_establish (world.run_transcript _ _)
  rw [launch_eq]
  cases hready : (world.run (establish plan rounds).run scene).result with
  | none =>
      rw [hready] at hwait
      have hrun : world.run ((establish plan rounds).run >>= conclude plan) scene
          = ⟨none, _, _⟩ := run_bind_of_unfinished hready
      rw [hrun]
      exact ⟨[], (List.append_nil _).symm, inSequence_of_unfinished hwait⟩
  | some r =>
      rw [hready] at hwait
      have hrun : world.run ((establish plan rounds).run >>= conclude plan) scene
          = ⟨_, _, _⟩ := run_bind_of_result hready
      obtain ⟨outcome, hconclude, ho⟩ := transcript_conclude (world.run_transcript (conclude plan r)
        (world.run (establish plan rounds).run scene).after)
      have hsequence := inSequence_of_concluded hwait hconclude
      rw [← ho] at hsequence
      rw [hrun]
      exact ⟨_, List.map_append, hsequence⟩

end AgentLaunch.Attempt
