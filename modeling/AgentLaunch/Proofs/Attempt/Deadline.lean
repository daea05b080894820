import AgentLaunch.Proofs.Attempt.Rounds
import AgentLaunch.Proofs.Attempt.Waiting
import AgentLaunch.Rehearsal.World
import Mathlib.Data.List.Infix

/-!
# The deadline

The two loops that wait for the management service look at the clock once in every round, before
the pass.  Between two looks the clock may go on by a whole pass and a pause, so a wait may be over
some time after its deadline.  This module says how long that can be.

A ping cannot help to overrun the deadline, as it is cut off there.  What can are the calls of a
resolution pass, and the pause in which a service becomes stable.

* `passStarts` — the moments in which the passes of a wait start.
* `Pass`, `Paced` — what a pass and a loop of passes do to the clock; `Pass.last`, `Pass.again`
  build a loop from its last pass.
* `Search.paced`, `Wait.paced` — both loops are paced.
* **`establish_keepsDeadline`** — whatever the surroundings do, the wait ends, and in time.

Both loops are treated alike.  `Pass` states what is needed of one pass: it starts in time, it is
one pass and not two, and it is over some time after the deadline at the latest, the *excess*.  For
a resolution pass the excess is the longest time `c` that such a pass takes, and for a probing pass
it is the boot delay, as the ping itself is cut off.  `Paced` states what follows for a loop, and is
proved by induction on the loop, from its last pass to its first one, with the moment at which it
starts generalized.

That a wait ends is a matter of counting.  Passes are at least one pause apart, so only so many of
them start in time, and a loop that has more rounds than that cannot be left unfinished
(`Paced.ne_none`).  Together with `Extends` this also shows that any larger number of rounds gives
the very same run.
-/

namespace AgentLaunch.Attempt

open Dialogue

variable {σ : Type}

/-! ## The clock -/

section Clock

variable (world : Surroundings σ) (s : Scene σ)

/-- A ping is over when its budget is spent. -/
lemma clock_ping_le (budget : Nat) :
    s.clock ≤ (world.respond s (.ping budget)).2.clock
      ∧ (world.respond s (.ping budget)).2.clock ≤ s.clock + budget := by
  unfold Surroundings.respond
  rcases world.ping s.memory s.clock with ⟨⟨delay, reply⟩ | _, memory⟩
  · by_cases hdelay : delay ≤ budget <;> simp [hdelay]
  · simp

/-- The clock does not go back. -/
lemma clock_le_respond (r : Request) : s.clock ≤ (world.respond s r).2.clock := by
  cases r with
  | log | elapsed | today => exact le_rfl
  | sleep duration => exact Nat.le_add_right _ _
  | ping budget => exact (clock_ping_le world s budget).1
  | call c => exact Nat.le_add_right _ _

lemma clock_le_stateAfter (es : List Event) :
    s.clock ≤ (stateAfter world.respond s es).clock := by
  induction es generalizing s with
  | nil => exact le_rfl
  | cons x es ih => exact (clock_le_respond world s x.request).trans (ih _)

variable {world s}

/-- A look at the clock tells the time. -/
lemma answered_looked_cons_iff {t : Nat} {es : List Event} :
    Answered world.respond s (looked t :: es) ↔ t = s.clock ∧ Answered world.respond s es :=
  Iff.rfl

end Clock

/-! ## Passes -/

/-- The moments in which the passes of a wait start, in order: resolution passes, each with its
question for the address, and probing passes, each with its first ping.  The flag tells whether the
last ping was answered with yes; then the next one belongs to the same pass. -/
def passStarts (answered : Bool) : List (Exchange signature (Scene σ)) → List (Scene σ)
  | [] => []
  | ⟨start, .call (.describe _), _⟩ :: rest => start :: passStarts answered rest
  | ⟨start, .ping _, reply⟩ :: rest =>
    if answered then passStarts (answersYes reply) rest
    else start :: passStarts (answersYes reply) rest
  | _ :: rest => passStarts answered rest

/-- No pass starts with a request like this. -/
def Request.Incidental : Request → Prop
  | .call (.describe _) => False
  | .ping _ => False
  | _ => True

section Starts

variable {world : Surroundings σ} {s : Scene σ} {answered : Bool} {es rest : List Event}

lemma passStarts_cons_of_incidental {x : Event} (h : x.request.Incidental) :
    passStarts answered (exchangesFrom world.respond s (x :: rest))
      = passStarts answered (exchangesFrom world.respond (world.respond s x.request).2 rest) := by
  rcases x with ⟨_ | _ | _ | _ | _ | c, reply⟩
  case call => cases c <;> first | rfl | exact h.elim
  case ping => exact h.elim
  all_goals rfl

lemma passStarts_of_incidental (h : ∀ x ∈ es, x.request.Incidental) :
    passStarts answered (exchangesFrom world.respond s es) = [] := by
  induction es generalizing s with
  | nil => rfl
  | cons x es ih =>
      rw [List.forall_mem_cons] at h
      rw [passStarts_cons_of_incidental h.1, ih h.2]

/-- Events without a ping leave the flag alone. -/
lemma passStarts_append (h : ∀ x ∈ es, ∀ budget, x.request ≠ .ping budget) :
    passStarts answered (exchangesFrom world.respond s (es ++ rest))
      = passStarts answered (exchangesFrom world.respond s es)
        ++ passStarts answered
          (exchangesFrom world.respond (stateAfter world.respond s es) rest) := by
  induction es generalizing s with
  | nil => rfl
  | cons x es ih =>
      rw [List.forall_mem_cons] at h
      obtain ⟨hx, hes⟩ := h
      rw [List.cons_append]
      by_cases hincidental : x.request.Incidental
      · rw [passStarts_cons_of_incidental hincidental, passStarts_cons_of_incidental hincidental,
          ih hes]
        rfl
      · rcases x with ⟨_ | _ | _ | _ | budget | c, reply⟩
        case call =>
          cases c
          case describe => exact congrArg (s :: ·) (ih hes)
          all_goals exact absurd trivial hincidental
        case ping => exact absurd rfl (hx budget)
        all_goals exact absurd trivial hincidental

end Starts

/-- A pass from a moment on: it starts before the deadline, there is no other one in it, and it ends
some time after the deadline at the latest.  The flag is that of `passStarts`. -/
structure Pass (world : Surroundings σ) (deadline : Deadline) (excess : Nat) (s : Scene σ)
    (es : List Event) (answered : Bool) : Prop where
  early : s.clock ≤ deadline.start + deadline.limit
  starts : ∀ rest, passStarts false (exchangesFrom world.respond s (es ++ rest))
    = s :: passStarts answered (exchangesFrom world.respond (stateAfter world.respond s es) rest)
  ends_le : (stateAfter world.respond s es).clock ≤ deadline.start + deadline.limit + excess

/-! ## Loops of passes -/

/-- What a loop of passes does from a moment on, if each of them ends some time after the deadline
at the latest. -/
structure Paced {α : Type} (world : Surroundings σ) (plan : LaunchPlan) (deadline : Deadline)
    (excess rounds : Nat) (s : Scene σ) (es : List Event) (o : Option (Except LaunchError α)) :
    Prop where
  starts_le : ∀ start ∈ passStarts false (exchangesFrom world.respond s es),
    start.clock ≤ deadline.start + deadline.limit
  /-- There is a pause between two passes.  A loop that begins when the time is up has no pass, and
  then the subtraction is truncated. -/
  length_mul_le : (passStarts false (exchangesFrom world.respond s es)).length * plan.retryInterval
    ≤ deadline.start + deadline.limit + plan.retryInterval - s.clock
  unfinished : o = none → (passStarts false (exchangesFrom world.respond s es)).length = rounds
  /-- A loop that finds something ends with the pass that does, and all others have a pause. -/
  found : ∀ a, o = some (.ok a) →
    (stateAfter world.respond s es).clock ≤ deadline.start + deadline.limit + excess
      ∧ s.clock + (passStarts false (exchangesFrom world.respond s es)).length * plan.retryInterval
        ≤ (stateAfter world.respond s es).clock + plan.retryInterval
  /-- A timeout comes with a look at the clock, at most one pass and a pause after the deadline. -/
  timeout : ∀ secs, o = some (.error (.timeout secs)) → ∃ front t tail,
    es = front ++ looked t :: tail
      ∧ (tail = [] ∨ tail = [called .closeSession ()])
      ∧ (stateAfter world.respond s front).clock = t
      ∧ deadline.limit < t - deadline.start
      ∧ t ≤ max s.clock (deadline.start + deadline.limit + excess + plan.retryInterval)
      ∧ secs = (t - deadline.start) / 1000

section Loops

variable {α : Type} {world : Surroundings σ} {plan : LaunchPlan} {deadline : Deadline}
  {excess rounds : Nat} {s : Scene σ} {es rest : List Event}
  {o : Option (Except LaunchError α)}

lemma paced_outOfRounds :
    Paced world plan deadline excess 0 s [] (none : Option (Except LaunchError α)) where
  starts_le := by simp [exchangesFrom, passStarts]
  length_mul_le := by simp [exchangesFrom, passStarts]
  unfinished := fun _ => rfl
  found := by simp
  timeout := by simp

/-- A loop whose first look at the clock is too late. -/
lemma paced_late {tail : List Event} (hlate : deadline.limit < s.clock - deadline.start)
    (htail : tail = [] ∨ tail = [called .closeSession ()]) :
    Paced world plan deadline excess (rounds + 1) s (looked s.clock :: tail)
      (some (.error (timedOut (s.clock - deadline.start))) : Option (Except LaunchError α)) := by
  have hstarts :
      passStarts false (exchangesFrom world.respond s (looked s.clock :: tail)) = [] := by
    rcases htail with rfl | rfl <;> rfl
  constructor
  case starts_le => simp [hstarts]
  case length_mul_le => simp [hstarts]
  case unfinished => simp
  case found => simp
  case timeout =>
    rintro secs hsecs
    have hsecs : (s.clock - deadline.start) / 1000 = secs := by simpa [timedOut] using hsecs
    exact ⟨[], s.clock, tail, rfl, htail, rfl, hlate, le_max_left _ _, hsecs.symm⟩

/-- A loop with one pass, which is the last one. -/
lemma Pass.last {answered : Bool} (h : Pass world deadline excess s es answered)
    (hfinished : o ≠ none) (hintime : ∀ secs, o ≠ some (.error (.timeout secs))) :
    Paced world plan deadline excess (rounds + 1) s es o := by
  have hstarts : passStarts false (exchangesFrom world.respond s es) = [s] := by
    simpa [exchangesFrom, passStarts] using h.starts []
  have hclock := clock_le_stateAfter world s es
  constructor
  case starts_le => simpa [hstarts] using h.early
  case length_mul_le =>
    have hearly := h.early
    simp only [hstarts, List.length_singleton, Nat.one_mul]
    omega
  case unfinished => exact fun ho => absurd ho hfinished
  case found =>
    intro a _
    simp only [hstarts, List.length_singleton, Nat.one_mul]
    exact ⟨h.ends_le, by omega⟩
  case timeout => exact fun secs ho => absurd ho (hintime secs)

/-- **A loop with one more pass**, and a pause after it. -/
lemma Pass.again (h : Pass world deadline excess s es false)
    (hrest : Paced world plan deadline excess rounds
      (stateAfter world.respond s (es ++ [slept plan.retryInterval])) rest o) :
    Paced world plan deadline excess (rounds + 1) s (es ++ slept plan.retryInterval :: rest) o := by
  have hearly := h.early
  have hover := h.ends_le
  have hclock := clock_le_stateAfter world s es
  have hpause : (stateAfter world.respond s (es ++ [slept plan.retryInterval])).clock
      = (stateAfter world.respond s es).clock + plan.retryInterval := by
    rw [stateAfter_append]
    rfl
  have hlist : es ++ slept plan.retryInterval :: rest
      = (es ++ [slept plan.retryInterval]) ++ rest := by simp
  have hstarts : passStarts false (exchangesFrom world.respond s
        (es ++ slept plan.retryInterval :: rest))
      = s :: passStarts false (exchangesFrom world.respond
          (stateAfter world.respond s (es ++ [slept plan.retryInterval])) rest) := by
    rw [h.starts, stateAfter_append]
    rfl
  constructor
  case starts_le =>
    rw [hstarts, List.forall_mem_cons]
    exact ⟨hearly, hrest.starts_le⟩
  case length_mul_le =>
    have hroom := hrest.length_mul_le
    rw [hstarts, List.length_cons, Nat.succ_mul]
    omega
  case unfinished =>
    intro ho
    rw [hstarts, List.length_cons, hrest.unfinished ho]
  case found =>
    intro a ho
    obtain ⟨hend, hspace⟩ := hrest.found a ho
    rw [hstarts, List.length_cons, Nat.succ_mul, hlist, stateAfter_append]
    exact ⟨hend, by omega⟩
  case timeout =>
    intro secs ho
    obtain ⟨front, t, tail, rfl, htail, ht, hlate, hbound, hsecs⟩ := hrest.timeout secs ho
    refine ⟨(es ++ [slept plan.retryInterval]) ++ front, t, tail, by simp, htail, ?_, hlate, ?_,
      hsecs⟩
    · rw [stateAfter_append]
      exact ht
    · omega

end Loops

/-! ## The search for a session -/

/-- Every resolution pass that starts in one of some exchanges takes at most some time. -/
def QuickPasses (world : Surroundings σ) (plan : LaunchPlan) (c : Nat)
    (exchanges : List (Exchange signature (Scene σ))) : Prop :=
  ∀ x ∈ exchanges, x.request = .call (.describe plan.instanceId) →
    (world.run (resolutionPass plan).run x.before).after.clock ≤ x.before.clock + c

section Search

variable {world : Surroundings σ} {plan : LaunchPlan} {deadline : Deadline} {c rounds : Nat}
  {s : Scene σ} {es : List Event}

lemma FindsCredentials.incidental {r : Except LaunchError Resolution}
    (h : FindsCredentials plan es r) : ∀ x ∈ es, x.request.Incidental := by
  have hwarning : ∀ x ∈ identityWarning plan, x.request.Incidental := by
    unfold identityWarning
    split <;> simp [said, Request.Incidental]
  cases h with
  | supplied | notSupplied => simp
  | unavailable | notGenerated | undecryptable => simp [called, said, Request.Incidental]
  | derived => simpa [called, Request.Incidental] using hwarning

lemma ResolutionPass.exists_cons {r : Except LaunchError (Option SessionTarget)}
    (h : ResolutionPass plan es r) :
    ∃ reply tail, es = called (.describe plan.instanceId) reply :: tail
      ∧ ∀ x ∈ tail, x.request.Incidental := by
  cases h with
  | undescribed | unassigned => exact ⟨_, _, rfl, by simp [said, Request.Incidental]⟩
  | pending _ hfinds | failed _ hfinds => exact ⟨_, _, rfl, hfinds.incidental⟩
  | opened _ hfinds =>
      refine ⟨_, _, rfl, List.forall_mem_append.mpr ⟨hfinds.incidental, ?_⟩⟩
      simp [said, called, Request.Incidental]

lemma Request.Incidental.ne_ping {r : Request} (h : r.Incidental) (budget : Nat) :
    r ≠ .ping budget := by
  rintro rfl
  exact h

lemma ResolutionPass.ne_ping {r : Except LaunchError (Option SessionTarget)}
    (h : ResolutionPass plan es r) : ∀ x ∈ es, ∀ budget, x.request ≠ .ping budget := by
  obtain ⟨reply, tail, rfl, htail⟩ := h.exists_cons
  rw [List.forall_mem_cons]
  exact ⟨by simp [called], fun x hx => (htail x hx).ne_ping⟩

/-- A resolution pass is a pass that takes as long as it is allowed to. -/
lemma pass_resolutionPass {r : Except LaunchError (Option SessionTarget)}
    (hearly : s.clock - deadline.start ≤ deadline.limit)
    (hpass : Transcript (resolutionPass plan).run es (some r))
    (hanswered : Answered world.respond s es)
    (hquick : QuickPasses world plan c (exchangesFrom world.respond s es)) :
    Pass world deadline c s (looked s.clock :: es) false := by
  have hresolution := ResolutionPass.of_transcript hpass
  have hping := hresolution.ne_ping
  have hrun := run_of_transcript hpass hanswered
  obtain ⟨reply, tail, rfl, htail⟩ := hresolution.exists_cons
  constructor
  case early => omega
  case starts =>
    intro rest
    have hfirst : passStarts false
        (exchangesFrom world.respond s (called (.describe plan.instanceId) reply :: tail)) = [s] :=
      congrArg (s :: ·) (passStarts_of_incidental htail)
    rw [List.cons_append, passStarts_cons_of_incidental (x := looked s.clock) trivial]
    exact (passStarts_append hping).trans (congrArg (· ++ _) hfirst)
  case ends_le =>
    have htime : (run world.respond (resolutionPass plan).run s).after.clock ≤ s.clock + c :=
      hquick _ List.mem_cons_self rfl
    rw [hrun] at htime
    exact htime.trans (by omega)

/-- **The search is paced**, by the time that a resolution pass takes. -/
theorem Search.paced {o : Option (Except LaunchError SessionTarget)}
    (h : Search plan deadline rounds es o) (hanswered : Answered world.respond s es)
    (hquick : QuickPasses world plan c (exchangesFrom world.respond s es)) :
    Paced world plan deadline c rounds s es o := by
  induction h generalizing s with
  | outOfRounds => exact paced_outOfRounds
  | late ht =>
      obtain ⟨rfl, -⟩ := answered_looked_cons_iff.mp hanswered
      exact paced_late ht (.inl rfl)
  | opened ht hpass =>
      obtain ⟨rfl, hpassed⟩ := answered_looked_cons_iff.mp hanswered
      have hone := pass_resolutionPass ht hpass hpassed fun x hx => hquick x (.tail _ hx)
      exact hone.last (by simp) (by simp)
  | failed ht hpass =>
      obtain ⟨rfl, hpassed⟩ := answered_looked_cons_iff.mp hanswered
      have hone := pass_resolutionPass ht hpass hpassed fun x hx => hquick x (.tail _ hx)
      have hresolution := ResolutionPass.of_transcript hpass
      refine hone.last (by simp) fun secs hsecs => ?_
      exact hresolution.ne_timeout secs (Except.error.inj (Option.some.inj hsecs))
  | @again rounds t ht pass rest o hpass _ ih =>
      obtain ⟨hlook, hrest⟩ := (answered_append_iff ..).mp hanswered
      obtain ⟨rfl, hpassed⟩ := answered_looked_cons_iff.mp hlook
      rw [exchangesFrom_append] at hquick
      have hone := pass_resolutionPass ht hpass hpassed fun x hx =>
        hquick x (List.mem_append_left _ (.tail _ hx))
      refine hone.again ?_
      rw [stateAfter_append]
      exact ih hrest.2 fun x hx => hquick x (List.mem_append_right _ (.tail _ hx))

lemma Search.ne_ping {o : Option (Except LaunchError SessionTarget)}
    (h : Search plan deadline rounds es o) : ∀ x ∈ es, ∀ budget, x.request ≠ .ping budget := by
  have hpings : ∀ {es r}, Transcript (resolutionPass plan).run es (some r) →
      ∀ x ∈ es, ∀ budget, x.request ≠ .ping budget :=
    fun ht => (ResolutionPass.of_transcript ht).ne_ping
  induction h with
  | outOfRounds | late => simp [looked]
  | opened _ hpass | failed _ hpass =>
      rw [List.forall_mem_cons]
      exact ⟨by simp [looked], hpings hpass⟩
  | again _ hpass _ ih =>
      rw [List.forall_mem_append, List.forall_mem_cons, List.forall_mem_cons]
      exact ⟨⟨by simp [looked], hpings hpass⟩, by simp [slept], ih⟩

end Search

/-! ## The wait for a session to be ready -/

section Wait

variable {world : Surroundings σ} {plan : LaunchPlan} {deadline : Deadline} {b rounds : Nat}
  {stabilized : Bool} {s : Scene σ} {es : List Event}

/-- A progress line after a pass makes no difference. -/
lemma Pass.said {answered : Bool} {excess : Nat} (h : Pass world deadline excess s es answered)
    (line : String) : Pass world deadline excess s (es ++ [said line]) answered where
  early := h.early
  starts rest := by
    rw [List.append_assoc, h.starts, stateAfter_append]
    rfl
  ends_le := by
    rw [stateAfter_append]
    exact h.ends_le

section Probing

variable {t t' : Nat} {reply reply' : Option (Except TransportError Bool)}

/-- A probe is over before the deadline, or takes no time. -/
lemma clock_probing_le (h : Answered world.respond s (probing deadline t reply)) :
    (stateAfter world.respond s (probing deadline t reply)).clock
      ≤ max s.clock (deadline.start + deadline.limit) := by
  obtain ⟨rfl, -⟩ := answered_looked_cons_iff.mp h
  have hping := (clock_ping_le world s (deadline.limit - (s.clock - deadline.start))).2
  exact hping.trans (by omega)

/-- A pass with one probe is over before the deadline. -/
lemma pass_probing (hearly : s.clock - deadline.start ≤ deadline.limit)
    (h : Answered world.respond s (probing deadline t reply)) :
    Pass world deadline b s (looked s.clock :: probing deadline t reply) (answersYes reply) := by
  have hprobe := clock_probing_le h
  exact ⟨by omega, fun _ => rfl, hprobe.trans (by omega)⟩

/-- A pass with two probes can be late by the pause between them. -/
lemma pass_probing_twice (hearly : s.clock - deadline.start ≤ deadline.limit)
    (hreply : answersYes reply = true) (hdelay : plan.bootDelay ≤ b)
    (h : Answered world.respond s
      (probing deadline t reply ++ (stabilizing plan ++ probing deadline t' reply'))) :
    Pass world deadline b s (looked s.clock
      :: (probing deadline t reply ++ (stabilizing plan ++ probing deadline t' reply')))
      (answersYes reply') := by
  obtain ⟨hfirst, hrest⟩ := (answered_append_iff ..).mp h
  obtain ⟨-, hsecond⟩ := (answered_append_iff ..).mp hrest
  have hprobe := clock_probing_le hfirst
  have hpause : (stateAfter world.respond (stateAfter world.respond s (probing deadline t reply))
      (stabilizing plan)).clock
      = (stateAfter world.respond s (probing deadline t reply)).clock + plan.bootDelay := rfl
  have hprobe' := clock_probing_le hsecond
  constructor
  case early => omega
  case starts =>
    intro rest
    -- The second ping follows one that was answered with yes.
    show s :: (if answersYes reply then passStarts (answersYes reply')
      (exchangesFrom world.respond _ rest) else _ :: _) = _
    rw [if_pos hreply]
    rfl
  case ends_le =>
    show (stateAfter world.respond s (probing deadline t reply ++ _)).clock ≤ _
    rw [stateAfter_append, stateAfter_append]
    omega

end Probing

/-- A probing pass is a pass; it can be late by the pause in which the service becomes stable. -/
lemma pass_probingPass {r : Readiness} (hearly : s.clock - deadline.start ≤ deadline.limit)
    (hpass : ProbingPass plan deadline stabilized es r)
    (hanswered : Answered world.respond s es)
    (hdelay : stabilizing plan <:+: es → plan.bootDelay ≤ b) :
    Pass world deadline b s (looked s.clock :: es) (r = .ready) := by
  cases hpass with
  | @silent t reply hreply =>
      obtain ⟨hprobing, -⟩ := (answered_append_iff ..).mp hanswered
      have hpass := pass_probing (b := b) hearly hprobing
      rw [hreply] at hpass
      exact hpass.said _
  | @answers t reply hreply =>
      have hpass := pass_probing (b := b) hearly hanswered
      rw [hreply] at hpass
      exact hpass
  | @answersAgain t t' reply reply' hreply _ hreply' =>
      have hb := hdelay ⟨probing deadline t reply, probing deadline t' reply', by simp⟩
      have hpass := pass_probing_twice hearly hreply hb hanswered
      rw [hreply'] at hpass
      exact hpass
  | @relapses t t' reply reply' hreply _ hreply' =>
      have hb := hdelay ⟨probing deadline t reply, _, List.append_assoc ..⟩
      rw [← List.append_assoc, ← List.append_assoc, List.append_assoc (probing deadline t reply)]
        at hanswered
      obtain ⟨hprobing, -⟩ := (answered_append_iff ..).mp hanswered
      have hpass := pass_probing_twice hearly hreply hb hprobing
      rw [hreply'] at hpass
      exact hpass.said _

/-- **The wait for a session to be ready is paced**, by the pause in which the service becomes
stable, if there is one. -/
theorem Wait.paced {o : Option (Except LaunchError Unit)}
    (h : Wait plan deadline rounds stabilized es o) (hanswered : Answered world.respond s es)
    (hdelay : stabilizing plan <:+: es → plan.bootDelay ≤ b) :
    Paced world plan deadline b rounds s es o := by
  induction h generalizing s with
  | outOfRounds => exact paced_outOfRounds
  | late ht =>
      obtain ⟨rfl, -⟩ := answered_looked_cons_iff.mp hanswered
      exact paced_late ht (.inr rfl)
  | @ready rounds stabilized t ht pass hpass =>
      obtain ⟨hlook, -⟩ := (answered_append_iff ..).mp hanswered
      obtain ⟨rfl, hpassed⟩ := answered_looked_cons_iff.mp hlook
      have hone := pass_probingPass ht hpass hpassed fun hpause =>
        hdelay (hpause.trans ⟨[looked s.clock], _, rfl⟩)
      exact (hone.said _).last (by simp) (by simp)
  | @again rounds stabilized stabilized' t ht pass rest o hpass _ ih =>
      obtain ⟨hlook, hrest⟩ := (answered_append_iff ..).mp hanswered
      obtain ⟨rfl, hpassed⟩ := answered_looked_cons_iff.mp hlook
      have hone := pass_probingPass ht hpass hpassed fun hpause =>
        hdelay (hpause.trans ⟨[looked s.clock], _, rfl⟩)
      refine hone.again ?_
      rw [stateAfter_append]
      exact ih hrest.2 fun hpause =>
        hdelay (hpause.trans ⟨looked s.clock :: pass ++ [slept plan.retryInterval], [], by simp⟩)

end Wait

/-! ## The whole wait -/

/-- The boot delay, if some events have it. -/
def bootDelayIn (plan : LaunchPlan) (es : List Event) : Nat :=
  let pause : List Request := (stabilizing plan).map (·.request)
  let requests : List Request := es.map (·.request)
  if pause <:+: requests then plan.bootDelay else 0

lemma bootDelay_le_of_infix {plan : LaunchPlan} {es : List Event} (h : stabilizing plan <:+: es) :
    plan.bootDelay ≤ bootDelayIn plan es := by
  have hrequests := h.map (fun x => (x.request : Request))
  rw [bootDelayIn, if_pos hrequests]

/-- Some exchanges give up after some time: they look at the clock for the last time then, and
nothing but the end of the session comes after that. -/
def GivesUpAfter (waited : Nat) (scene : Scene σ)
    (exchanges : List (Exchange signature (Scene σ))) : Prop :=
  ∃ front x tail, exchanges = front ++ x :: tail
    ∧ x.request = .elapsed
    ∧ x.before.clock - scene.clock = waited
    ∧ (tail.map (·.request) = [] ∨ tail.map (·.request) = [.call .closeSession])

/-- **What a deadline means** for a run of the wait from some moment on, if no resolution pass in
it takes longer than `c`. -/
structure KeepsDeadline (plan : LaunchPlan) (c : Nat) (scene : Scene σ)
    (run : Run signature (Scene σ) (Except LaunchError SessionTarget)) : Prop where
  /-- The wait comes to an end. -/
  finished : run.result ≠ none
  /-- No pass starts after the deadline. -/
  starts_le : ∀ start ∈ passStarts false run.exchanges,
    start.clock ≤ scene.clock + plan.deadline
  /-- There are not more passes than there is time for pauses between them. -/
  length_starts_le :
    (passStarts false run.exchanges).length ≤ plan.deadline / plan.retryInterval + 2
  /-- A session is late by the boot delay at most. -/
  session_le : ∀ target, run.result = some (.ok target) →
    run.after.clock ≤ scene.clock + plan.deadline + bootDelayIn plan run.events
  /-- A timeout tells how long the wait was, and that is too long by one pass and a pause at
  most. -/
  timeout : ∀ secs, run.result = some (.error (.timeout secs)) →
    ∃ waited, GivesUpAfter waited scene run.exchanges
      ∧ plan.deadline < waited
      ∧ waited ≤ plan.deadline + max (bootDelayIn plan run.events) c + plan.retryInterval
      ∧ secs = waited / 1000

section Establishment

variable {world : Surroundings σ} {plan : LaunchPlan} {c rounds : Nat} {scene : Scene σ}

/-- So many passes have room for their pauses. -/
lemma passes_le {passes k limit interval : Nat} (hinterval : 0 < interval)
    (h : passes * interval ≤ limit + k * interval) : passes ≤ limit / interval + k := by
  rw [← Nat.add_mul_div_right _ _ hinterval]
  exact (Nat.le_div_iff_mul_le hinterval).mpr h

/-- A loop that has enough rounds does not run out of them. -/
lemma Paced.ne_none {α : Type} {start excess : Nat} {s : Scene σ} {es : List Event}
    {o : Option (Except LaunchError α)}
    (h : Paced world plan ⟨start, plan.deadline⟩ excess rounds s es o) (hstart : start ≤ s.clock)
    (hretry : 0 < plan.retryInterval) (hrounds : plan.rounds ≤ rounds) : o ≠ none := by
  intro ho
  have hlength := h.length_mul_le
  rw [h.unfinished ho] at hlength
  dsimp only at hlength
  have hpasses : rounds ≤ plan.deadline / plan.retryInterval + 1 := passes_le hretry (by omega)
  rw [LaunchPlan.rounds] at hrounds
  omega

/-- A loop that is left because of the time is left in time. -/
lemma Paced.givesUpAfter {α : Type} {limit excess secs : Nat} {before es : List Event}
    {o : Option (Except LaunchError α)}
    (h : Paced world plan ⟨scene.clock, limit⟩ excess rounds
      (stateAfter world.respond scene before) es o)
    (ho : o = some (.error (.timeout secs))) :
    ∃ waited, GivesUpAfter waited scene (exchangesFrom world.respond scene (before ++ es))
      ∧ limit < waited
      ∧ waited ≤ max ((stateAfter world.respond scene before).clock - scene.clock)
          (limit + excess + plan.retryInterval)
      ∧ secs = waited / 1000 := by
  obtain ⟨front, t, tail, rfl, htail, ht, hlate, hbound, hsecs⟩ := h.timeout secs ho
  dsimp only at hbound
  refine ⟨t - scene.clock, ?_, hlate, by omega, hsecs⟩
  refine ⟨exchangesFrom world.respond scene (before ++ front),
    ⟨stateAfter world.respond scene (before ++ front), .elapsed, t⟩,
    exchangesFrom world.respond (stateAfter world.respond scene (before ++ front)) tail,
    ?_, rfl, ?_, ?_⟩
  · rw [← List.append_assoc, exchangesFrom_append]
    rfl
  · rw [stateAfter_append, ht]
  · rcases htail with rfl | rfl
    · exact .inl rfl
    · exact .inr rfl

/-- Two loops after each other have one pause less than passes in each of them. -/
lemma Paced.add_mul_le {α β : Type} {deadline : Deadline} {excess excess' rounds' : Nat}
    {s : Scene σ} {es es' : List Event} {a : α} {o : Option (Except LaunchError β)}
    (h : Paced world plan deadline excess rounds s es (some (.ok a)))
    (h' : Paced world plan deadline excess' rounds' (stateAfter world.respond s es) es' o) :
    ((passStarts false (exchangesFrom world.respond s es)).length
        + (passStarts false
            (exchangesFrom world.respond (stateAfter world.respond s es) es')).length)
          * plan.retryInterval
      ≤ deadline.start + deadline.limit + 2 * plan.retryInterval - s.clock := by
  have hspace := (h.found a rfl).2
  have hfirst := h.length_mul_le
  have hsecond := h'.length_mul_le
  rw [Nat.add_mul]
  omega

/-- The look at the clock with which every wait begins takes no time. -/
lemma answered_opening_append {start : Nat} {now : Timestamp} {es : List Event}
    (h : Answered world.respond scene (opening plan start now ++ es)) :
    start = scene.clock ∧ Answered world.respond scene es := by
  obtain ⟨hlook, -, -, hrest⟩ := h
  exact ⟨hlook, hrest⟩

/-- A search that finds no session keeps the deadline. -/
lemma Search.keepsDeadline {now : Timestamp} {es : List Event}
    {o : Option (Except LaunchError SessionTarget)} (hretry : 0 < plan.retryInterval)
    (hrounds : plan.rounds ≤ rounds) (ho : ∀ target, o ≠ some (.ok target))
    (hpaced : Paced world plan ⟨scene.clock, plan.deadline⟩ c rounds scene es o) :
    KeepsDeadline plan c scene ⟨o,
      stateAfter world.respond scene (opening plan scene.clock now ++ es),
      exchangesFrom world.respond scene (opening plan scene.clock now ++ es)⟩ := by
  have hstarts : passStarts false (exchangesFrom world.respond scene
      (opening plan scene.clock now ++ es))
        = passStarts false (exchangesFrom world.respond scene es) :=
    rfl
  constructor
  case finished => exact hpaced.ne_none le_rfl hretry hrounds
  case starts_le => exact hpaced.starts_le
  case length_starts_le =>
    have hlength := hpaced.length_mul_le
    dsimp only at hlength
    rw [hstarts]
    exact passes_le hretry (by omega)
  case session_le => exact fun target h => absurd h (ho target)
  case timeout =>
    intro secs h
    have hopening : stateAfter world.respond scene (opening plan scene.clock now) = scene := rfl
    have hopened : Paced world plan ⟨scene.clock, plan.deadline⟩ c rounds
        (stateAfter world.respond scene (opening plan scene.clock now)) es o := hpaced
    obtain ⟨waited, hgives, hlate, hbound, hsecs⟩ := hopened.givesUpAfter h
    rw [hopening] at hbound
    exact ⟨waited, hgives, hlate, by omega, hsecs⟩

/-- A search that finds a session and the wait for it to be ready keep the deadline. -/
lemma Wait.keepsDeadline {now : Timestamp} {es es' : List Event} {target : SessionTarget}
    {o : Option (Except LaunchError Unit)} (hretry : 0 < plan.retryInterval)
    (hrounds : plan.rounds ≤ rounds) (hping : ∀ x ∈ es, ∀ budget, x.request ≠ .ping budget)
    (hsearch : Paced world plan ⟨scene.clock, plan.deadline⟩ c rounds scene es
      (some (.ok target)))
    (hwait : Paced world plan ⟨scene.clock, plan.deadline⟩
      (bootDelayIn plan (opening plan scene.clock now ++ es ++ es')) rounds
      (stateAfter world.respond scene (opening plan scene.clock now ++ es)) es' o) :
    KeepsDeadline plan c scene ⟨o.map (Except.map fun _ => target),
      stateAfter world.respond scene (opening plan scene.clock now ++ es ++ es'),
      exchangesFrom world.respond scene (opening plan scene.clock now ++ es ++ es')⟩ := by
  have hevents : Run.events ⟨o.map (Except.map fun _ => target),
      stateAfter world.respond scene (opening plan scene.clock now ++ es ++ es'),
      exchangesFrom world.respond scene (opening plan scene.clock now ++ es ++ es')⟩
      = opening plan scene.clock now ++ es ++ es' := exchangesFrom_map_event ..
  have hstarts : passStarts false (exchangesFrom world.respond scene
        (opening plan scene.clock now ++ es ++ es'))
      = passStarts false (exchangesFrom world.respond scene es)
        ++ passStarts false
          (exchangesFrom world.respond (stateAfter world.respond scene es) es') := by
    rw [List.append_assoc]
    exact passStarts_append hping
  constructor
  case finished =>
    have hclock := clock_le_stateAfter world scene (opening plan scene.clock now ++ es)
    simpa using hwait.ne_none hclock hretry hrounds
  case starts_le =>
    rw [hstarts, List.forall_mem_append]
    exact ⟨hsearch.starts_le, hwait.starts_le⟩
  case length_starts_le =>
    have hlength := hsearch.add_mul_le hwait
    dsimp only at hlength
    rw [hstarts, List.length_append]
    exact passes_le hretry (by omega)
  case session_le =>
    intro _ ho
    obtain rfl : o = some (.ok ()) := by
      rcases o with _ | e | _
      · cases ho
      · cases ho
      · rfl
    rw [hevents, stateAfter_append]
    exact (hwait.found () rfl).1
  case timeout =>
    intro secs ho
    obtain rfl : o = some (.error (.timeout secs)) := by
      rcases o with _ | e | _
      · cases ho
      · cases ho
        rfl
      · cases ho
    obtain ⟨waited, hgives, hlate, hbound, hsecs⟩ := hwait.givesUpAfter rfl
    have hfound : (stateAfter world.respond scene (opening plan scene.clock now ++ es)).clock
        ≤ scene.clock + plan.deadline + c := (hsearch.found target rfl).1
    refine ⟨waited, hgives, hlate, ?_, hsecs⟩
    rw [hevents]
    omega

/-- The whole wait keeps the deadline. -/
lemma Establishment.keepsDeadline {es : List Event} {o : Option (Except LaunchError SessionTarget)}
    (h : Establishment plan rounds es o) (hretry : 0 < plan.retryInterval)
    (hrounds : plan.rounds ≤ rounds) (hanswered : Answered world.respond scene es)
    (hquick : QuickPasses world plan c (exchangesFrom world.respond scene es)) :
    KeepsDeadline plan c scene
      ⟨o, stateAfter world.respond scene es, exchangesFrom world.respond scene es⟩ := by
  cases h with
  | unresolved ho hsearch =>
      obtain ⟨rfl, hsearched⟩ := answered_opening_append hanswered
      rw [exchangesFrom_append] at hquick
      have hpaced := hsearch.paced hsearched fun x hx => hquick x (List.mem_append_right _ hx)
      exact Search.keepsDeadline hretry hrounds ho hpaced
  | @resolved start now es es' target o hsearch hwait =>
      rw [List.append_assoc] at hanswered
      obtain ⟨rfl, hrest⟩ := answered_opening_append hanswered
      obtain ⟨hsearched, hwaited⟩ := (answered_append_iff ..).mp hrest
      rw [List.append_assoc, exchangesFrom_append] at hquick
      have hfirst := hsearch.paced hsearched fun x hx => by
        refine hquick x (List.mem_append_right _ ?_)
        rw [exchangesFrom_append]
        exact List.mem_append_left _ hx
      have hsecond := hwait.paced hwaited fun hpause =>
        bootDelay_le_of_infix (hpause.trans
          (List.suffix_append (opening plan scene.clock now ++ es) es').isInfix)
      exact Wait.keepsDeadline hretry hrounds hsearch.ne_ping hfirst hsecond

lemma keepsDeadline_of_quickPasses (hretry : 0 < plan.retryInterval)
    (hrounds : plan.rounds ≤ rounds)
    (hquick : QuickPasses world plan c (world.run (establish plan rounds).run scene).exchanges) :
    KeepsDeadline plan c scene (world.run (establish plan rounds).run scene) := by
  have htranscript := world.run_transcript (establish plan rounds).run scene
  have hanswered : Answered world.respond scene
      (world.run (establish plan rounds).run scene).events := (run_replay ..).2.2
  have hrun : world.run (establish plan rounds).run scene = _ :=
    run_of_transcript htranscript hanswered
  rw [hrun] at hquick ⊢
  exact (transcript_establish htranscript).keepsDeadline hretry hrounds hanswered hquick

/-- In a run, some resolution pass is the longest one. -/
lemma exists_quickPasses (world : Surroundings σ) (plan : LaunchPlan)
    (exchanges : List (Exchange signature (Scene σ))) :
    ∃ c, QuickPasses world plan c exchanges := by
  induction exchanges with
  | nil => exact ⟨0, by simp [QuickPasses]⟩
  | cons x exchanges ih =>
      obtain ⟨c, hc⟩ := ih
      refine ⟨max c (world.run (resolutionPass plan).run x.before).after.clock, ?_⟩
      refine List.forall_mem_cons.mpr ⟨fun _ => by omega, fun y hy hdescribe => ?_⟩
      have htime := hc y hy hdescribe
      omega

/-- **A wait needs no more rounds than its plan says**, however long the resolution passes take. -/
theorem establish_run_rounds (hretry : 0 < plan.retryInterval) (hrounds : plan.rounds ≤ rounds) :
    world.run (establish plan rounds).run scene
      = world.run (establish plan plan.rounds).run scene := by
  obtain ⟨c, hquick⟩ := exists_quickPasses world plan
    (world.run (establish plan plan.rounds).run scene).exchanges
  exact (extends_establish hrounds).run_eq
    (keepsDeadline_of_quickPasses hretry le_rfl hquick).finished

/-- **Every wait ends in time.**  Whatever the surroundings do, as long as no resolution pass takes
longer than `c`, the wait for the management service keeps its deadline, and more rounds than
`LaunchPlan.rounds` make no difference to it. -/
theorem establish_keepsDeadline (world : Surroundings σ) (plan : LaunchPlan) (scene : Scene σ)
    {c rounds : Nat} (hretry : 0 < plan.retryInterval) (hrounds : plan.rounds ≤ rounds)
    (hquick : QuickPasses world plan c (world.run (establish plan rounds).run scene).exchanges) :
    KeepsDeadline plan c scene (world.run (establish plan rounds).run scene)
      ∧ world.run (establish plan rounds).run scene
        = world.run (establish plan plan.rounds).run scene :=
  ⟨keepsDeadline_of_quickPasses hretry hrounds hquick, establish_run_rounds hretry hrounds⟩

end Establishment

/-- A host that never answers a ping, and a cloud that takes a second for each of its replies. -/
def deafHost : Surroundings Unit where
  answer _ _ c := ((Rehearsal.World.answer {} c).1, 1000, ())
  ping _ _ := (.silent, ())
  today _ _ := ⟨0, 0, 0⟩

/-- A plan with a password, and without much patience. -/
def impatientPlan : LaunchPlan where
  instanceId := "i-1"
  createdAt := ⟨0, 0, 0⟩
  security := .suppliedPassword
  adminPassword := some ⟨"secret"⟩
  launchTimeout := 20000

/-- On the deaf host a resolution pass takes two replies, one to the question for the address and
one to the opening of the session. -/
theorem establish_keepsDeadline_deafHost :
    0 < impatientPlan.retryInterval ∧ impatientPlan.rounds ≤ 9
      ∧ QuickPasses deafHost impatientPlan 2000
          (deafHost.run (establish impatientPlan 9).run ⟨(), 0⟩).exchanges
      ∧ KeepsDeadline impatientPlan 2000 ⟨(), 0⟩
          (deafHost.run (establish impatientPlan 9).run ⟨(), 0⟩)
      ∧ deafHost.run (establish impatientPlan 9).run ⟨(), 0⟩
        = deafHost.run (establish impatientPlan impatientPlan.rounds).run ⟨(), 0⟩ := by
  have hretry : 0 < impatientPlan.retryInterval := by decide
  have hrounds : impatientPlan.rounds ≤ 9 := by decide
  have hquick : QuickPasses deafHost impatientPlan 2000
      (deafHost.run (establish impatientPlan 9).run ⟨(), 0⟩).exchanges :=
    fun x _ _ => le_of_eq rfl
  exact ⟨hretry, hrounds, hquick,
    establish_keepsDeadline deafHost impatientPlan ⟨(), 0⟩ hretry hrounds hquick⟩

-- The ping goes out after two seconds and is cut off after twenty, and one pause comes after it.
example : (deafHost.run (establish impatientPlan 9).run ⟨(), 0⟩).result
    = some (.error (.timeout 30)) := by
  rfl

end AgentLaunch.Attempt
