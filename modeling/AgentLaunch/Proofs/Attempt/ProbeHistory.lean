import AgentLaunch.Proofs.Attempt.SessionOpening

/-!
# The history of a session

From the opening of its session on, a wait does little else than probing it and pausing.  The
*history* of the session tells which of the probes were answered with yes, and how long the pauses
were.  This module says which histories there are, and that a session is returned only after one
that proves it ready.

A sign is either a probe with its answer or a pause with its length; looks at the clock and lines
are left out, and so is everything before the opening.

* `Sign`, `history` — what is told about a session.
* `Course` — the histories that a wait can have, with one constructor for each way of a pass.
* `TakesTurns` — probes and pauses take turns, and every pause is the one that it should be.
* `Accepted` — the histories that prove a session ready.
* **`establish_provenReady`** — whatever the surroundings do, a wait returns a session after a
  history that proves it ready, and after the first such history that there is.
* **`establish_delays`** — how often a wait pauses for the service to become stable.

All facts about histories are proved of `Course`, by induction, and reach a run through
`Wait.course` alone.  The flag in a course is the one in the loop: whether the service has had its
boot delay.  It is set by the first probe that is answered with yes, and after that a single yes is
proof enough, unless the instance may have been restarted.

For such an instance the flag makes no difference, since the loop asks again after every yes.
`Delays` counts the pauses that this leads to: one for each probe that is answered with yes and is
not itself the second of a pair, where one in all might be expected.
-/

namespace AgentLaunch.Attempt

open Dialogue

variable {σ : Type}

/-! ## Signs -/

/-- What happens to a session: it is probed, and left alone for some time. -/
inductive Sign where
  | probe (yes : Bool)
  | pause (duration : Nat)
  deriving DecidableEq, Repr

def sign? : Event → Option Sign
  | ⟨.ping _, reply⟩ => some (.probe (answersYes reply))
  | ⟨.sleep duration, _⟩ => some (.pause duration)
  | _ => none

def opensSession : Event → Bool
  | ⟨.call (.openSession _), _⟩ => true
  | _ => false

/-- The signs from the opening of the session on. -/
def history (es : List Event) : List Sign :=
  (es.dropWhile fun x => !opensSession x).filterMap sign?

section Signs

variable {plan : LaunchPlan} {deadline : Deadline} {rounds : Nat} {es rest : List Event}

lemma opensSession_iff {x : Event} :
    opensSession x = true ↔ ∃ target, x.request = .call (.openSession target) := by
  rcases x with ⟨_ | _ | _ | _ | _ | c, reply⟩
  case call => cases c <;> simp [opensSession]
  all_goals simp [opensSession]

/-- There is no history before the session is opened. -/
lemma history_append_of_ne (h : ∀ target, ∀ x ∈ es, x.request ≠ .call (.openSession target)) :
    history (es ++ rest) = history rest := by
  refine congrArg (List.filterMap sign?) (List.dropWhile_append_of_pos fun x hx => ?_)
  rw [Bool.not_eq_true', ← Bool.not_eq_true, opensSession_iff]
  rintro ⟨target, hopens⟩
  exact h target x hx hopens

lemma history_opening {start : Nat} {now : Timestamp} :
    history (opening plan start now ++ rest) = history rest :=
  history_append_of_ne (by simp [opening, looked, said, dated])

/-- The opening of the session, if a search has found one. -/
def openings : Option (Except LaunchError SessionTarget) → List Event
  | some (.ok target) => [called (.openSession target) ()]
  | _ => []

/-- A search opens a session with its last event, or not at all. -/
lemma Search.opensLast {o : Option (Except LaunchError SessionTarget)}
    (h : Search plan deadline rounds es o) :
    ∃ front, es = front ++ openings o
      ∧ ∀ target, ∀ x ∈ front, x.request ≠ .call (.openSession target) := by
  induction h with
  | outOfRounds => exact ⟨[], rfl, by simp⟩
  | late => exact ⟨_, (List.append_nil _).symm, by simp [looked]⟩
  | @opened _ t _ _ target hpass =>
      obtain ⟨front, rfl, htries⟩ := (ResolutionPass.of_transcript hpass).tries_of_some
      exact ⟨looked t :: front, rfl, htries.looked_ne_openSession t⟩
  | @failed _ t _ es _ hpass =>
      have htries := (ResolutionPass.of_transcript hpass).tries_of_error
      exact ⟨looked t :: es, (List.append_nil _).symm, htries.looked_ne_openSession t⟩
  | @again _ t _ es _ _ hpass _ ih =>
      have htries := (ResolutionPass.of_transcript hpass).tries_of_none
      obtain ⟨front, rfl, hfront⟩ := ih
      refine ⟨repeated plan (t, es) ++ front, by simp [repeated], fun target => ?_⟩
      rw [List.forall_mem_append]
      exact ⟨repeated_ne_openSession htries target, hfront target⟩

lemma Search.history_of_ne {o : Option (Except LaunchError SessionTarget)}
    (h : Search plan deadline rounds es o) (ho : ∀ target, o ≠ some (.ok target)) :
    history es = [] := by
  obtain ⟨front, rfl, hfront⟩ := h.opensLast
  rw [history_append_of_ne hfront]
  rcases o with _ | _ | target
  · rfl
  · rfl
  · exact absurd rfl (ho target)

/-- The history of a session begins where the search has ended. -/
lemma Search.history_append {target : SessionTarget}
    (h : Search plan deadline rounds es (some (.ok target))) :
    history (es ++ rest) = rest.filterMap sign? := by
  obtain ⟨front, rfl, hfront⟩ := h.opensLast
  rw [List.append_assoc, history_append_of_ne hfront]
  rfl

end Signs

/-! ## Probes in time -/

/-- The remote host, asked at some moment, says yes within a budget. -/
def Surroundings.SaysYes (world : Surroundings σ) (s : Scene σ) (budget : Nat) : Prop :=
  ∃ delay, delay ≤ budget ∧ (world.ping s.memory s.clock).1 = .answers delay (.ok true)

/-- Every probe tells whether the remote host says yes in the time that is left then. -/
def ProbesInTime (world : Surroundings σ) (deadline : Deadline)
    (exchanges : List (Exchange signature (Scene σ))) : Prop :=
  ∀ x ∈ exchanges, ∀ yes, sign? x.event = some (.probe yes) →
    (yes = true ↔ world.SaysYes x.before (deadline.limit - (x.before.clock - deadline.start)))

section InTime

variable {world : Surroundings σ} {plan : LaunchPlan} {deadline : Deadline} {s : Scene σ}
  {stabilized : Bool} {rounds : Nat} {es es' : List Event}

lemma answersYes_ping_iff {budget : Nat} :
    answersYes (world.respond s (.ping budget)).1 = true ↔ world.SaysYes s budget := by
  unfold Surroundings.respond Surroundings.SaysYes
  rcases world.ping s.memory s.clock with ⟨⟨delay, _ | reachable⟩ | _, memory⟩
  case answers.error => by_cases hdelay : delay ≤ budget <;> simp [hdelay, answersYes]
  case answers.ok => by_cases hdelay : delay ≤ budget <;> simp [hdelay, answersYes]
  case silent => simp [answersYes]

lemma probesInTime_append :
    ProbesInTime world deadline (exchangesFrom world.respond s (es ++ es'))
      ↔ ProbesInTime world deadline (exchangesFrom world.respond s es)
        ∧ ProbesInTime world deadline
          (exchangesFrom world.respond (stateAfter world.respond s es) es') := by
  rw [exchangesFrom_append]
  exact List.forall_mem_append

lemma probesInTime_of_ne_ping (h : ∀ x ∈ es, ∀ budget, x.request ≠ .ping budget) :
    ProbesInTime world deadline (exchangesFrom world.respond s es) := by
  intro x hx yes hsign
  have hrequest := h _ (event_mem_of_mem_exchangesFrom hx)
  rcases x with ⟨before, _ | _ | _ | _ | budget | _, reply⟩
  case ping => exact absurd rfl (hrequest budget)
  all_goals simp [Exchange.event, sign?] at hsign

lemma probesInTime_probing {t : Nat} {reply : Option (Except TransportError Bool)}
    (h : Answered world.respond s (probing deadline t reply)) :
    ProbesInTime world deadline (exchangesFrom world.respond s (probing deadline t reply)) := by
  obtain ⟨rfl, hping⟩ := answered_looked_cons_iff.mp h
  have hreply : reply
      = (world.respond s (.ping (deadline.limit - (s.clock - deadline.start)))).1 := hping.1
  have hlist : exchangesFrom world.respond s (probing deadline s.clock reply)
      = [⟨s, .elapsed, s.clock⟩,
        ⟨s, .ping (deadline.limit - (s.clock - deadline.start)), reply⟩] := rfl
  rw [hlist]
  simp only [ProbesInTime, List.forall_mem_cons]
  refine ⟨by simp [Exchange.event, sign?], fun yes hsign => ?_, by simp⟩
  obtain rfl : answersYes reply = yes := by simpa [Exchange.event, sign?] using hsign
  rw [hreply]
  exact answersYes_ping_iff

lemma ProbingPass.probesInTime {r : Readiness} (h : ProbingPass plan deadline stabilized es r)
    (hanswered : Answered world.respond s es) :
    ProbesInTime world deadline (exchangesFrom world.respond s es) := by
  cases h with
  | silent =>
      rw [answered_append_iff] at hanswered
      rw [probesInTime_append]
      exact ⟨probesInTime_probing hanswered.1, probesInTime_of_ne_ping (by simp [said])⟩
  | answers => exact probesInTime_probing hanswered
  | answersAgain =>
      rw [answered_append_iff, answered_append_iff] at hanswered
      rw [probesInTime_append, probesInTime_append]
      exact ⟨probesInTime_probing hanswered.1,
        probesInTime_of_ne_ping (by simp [stabilizing, said, slept]),
        probesInTime_probing hanswered.2.2⟩
  | relapses =>
      rw [answered_append_iff, answered_append_iff, answered_append_iff] at hanswered
      rw [probesInTime_append, probesInTime_append, probesInTime_append]
      exact ⟨probesInTime_probing hanswered.1,
        probesInTime_of_ne_ping (by simp [stabilizing, said, slept]),
        probesInTime_probing hanswered.2.2.1, probesInTime_of_ne_ping (by simp [said])⟩

lemma Wait.probesInTime {o : Option (Except LaunchError Unit)}
    (h : Wait plan deadline rounds stabilized es o) (hanswered : Answered world.respond s es) :
    ProbesInTime world deadline (exchangesFrom world.respond s es) := by
  induction h generalizing s with
  | outOfRounds => exact probesInTime_of_ne_ping (by simp)
  | late => exact probesInTime_of_ne_ping (by simp [looked, called])
  | @ready _ _ t _ pass hpass =>
      have hlist : ∀ line, looked t :: pass ++ [said line] = [looked t] ++ (pass ++ [said line]) :=
        fun _ => rfl
      rw [hlist, answered_append_iff, answered_append_iff] at hanswered
      rw [hlist, probesInTime_append, probesInTime_append]
      exact ⟨probesInTime_of_ne_ping (by simp [looked]), hpass.probesInTime hanswered.2.1,
        probesInTime_of_ne_ping (by simp [said])⟩
  | @again _ _ _ t _ pass rest _ hpass _ ih =>
      have hlist : looked t :: pass ++ slept plan.retryInterval :: rest
          = [looked t] ++ (pass ++ ([slept plan.retryInterval] ++ rest)) := rfl
      rw [hlist, answered_append_iff, answered_append_iff, answered_append_iff] at hanswered
      rw [hlist, probesInTime_append, probesInTime_append, probesInTime_append]
      exact ⟨probesInTime_of_ne_ping (by simp [looked]), hpass.probesInTime hanswered.2.1,
        probesInTime_of_ne_ping (by simp [slept]), ih hanswered.2.2.2⟩

end InTime

/-! ## The histories of a wait -/

/-- The histories of a wait for a session to be ready.  The first flag tells whether the service
has had its pause to become stable, the second one whether the session is found ready. -/
inductive Course (plan : LaunchPlan) : Bool → List Sign → Bool → Prop where
  | stops {stabilized : Bool} : Course plan stabilized [] false
  | ready {stabilized : Bool} (hstable : (!stabilized || plan.stopOnTerminate) = false) :
      Course plan stabilized [.probe true] true
  | readyAgain {stabilized : Bool} (hunstable : (!stabilized || plan.stopOnTerminate) = true) :
      Course plan stabilized [.probe true, .pause plan.bootDelay, .probe true] true
  | retries {stabilized : Bool} {w : List Sign} {ready : Bool}
      (h : Course plan stabilized w ready) :
      Course plan stabilized (.probe false :: .pause plan.retryInterval :: w) ready
  | relapses {stabilized : Bool} {w : List Sign} {ready : Bool}
      (hunstable : (!stabilized || plan.stopOnTerminate) = true) (h : Course plan true w ready) :
      Course plan stabilized
        (.probe true :: .pause plan.bootDelay :: .probe false :: .pause plan.retryInterval :: w)
        ready

section Courses

variable {plan : LaunchPlan} {deadline : Deadline} {rounds : Nat} {stabilized ready : Bool}
  {es : List Event} {w : List Sign}

lemma signs_probing {t : Nat} {reply : Option (Except TransportError Bool)} :
    (probing deadline t reply).filterMap sign? = [.probe (answersYes reply)] := rfl

lemma signs_stabilizing : (stabilizing plan).filterMap sign? = [.pause plan.bootDelay] := rfl

lemma signs_ready (h : ProbingPass plan deadline stabilized es .ready) :
    Course plan stabilized (es.filterMap sign?) true := by
  cases h with
  | answers hreply hstable =>
      rw [signs_probing, hreply]
      exact .ready hstable
  | answersAgain hreply hunstable hreply' =>
      simp only [List.filterMap_append, signs_probing, signs_stabilizing, hreply, hreply']
      exact .readyAgain hunstable

lemma signs_waiting {stabilized' : Bool}
    (h : ProbingPass plan deadline stabilized es (.waiting stabilized'))
    (hrest : Course plan stabilized' w ready) :
    Course plan stabilized (es.filterMap sign? ++ .pause plan.retryInterval :: w) ready := by
  cases h with
  | silent hreply =>
      simp only [List.filterMap_append, signs_probing, hreply]
      exact .retries hrest
  | relapses hreply hunstable hreply' =>
      simp only [List.filterMap_append, signs_probing, signs_stabilizing, hreply, hreply']
      exact .relapses hunstable hrest

/-- **A wait runs a course.** -/
lemma Wait.course {o : Option (Except LaunchError Unit)}
    (h : Wait plan deadline rounds stabilized es o) :
    Course plan stabilized (es.filterMap sign?) (o.any Except.isOk) := by
  induction h with
  | outOfRounds | late => exact .stops
  | @ready _ _ t _ es hpass =>
      have hsigns :
          (looked t :: es ++ [said ("Connected to " ++ plan.displayName ++ ".")]).filterMap sign?
            = es.filterMap sign? := by
        simp [List.filterMap_cons, sign?, looked, said]
      rw [hsigns]
      exact signs_ready hpass
  | @again _ _ _ t _ es rest _ hpass _ ih =>
      have hsigns : (looked t :: es ++ slept plan.retryInterval :: rest).filterMap sign?
          = es.filterMap sign? ++ .pause plan.retryInterval :: rest.filterMap sign? := by
        simp [List.filterMap_cons, sign?, looked, slept]
      rw [hsigns]
      exact signs_waiting hpass ih

end Courses

/-! ## Taking turns -/

/-- The pause that belongs to a probe. -/
def pauseAfter (plan : LaunchPlan) : Bool → Nat
  | true => plan.bootDelay
  | false => plan.retryInterval

/-- Probes and pauses take turns: exactly one pause comes after each probe, and it is the one that
belongs to it.  Only a probe that was answered with yes may be the last sign. -/
inductive TakesTurns (plan : LaunchPlan) : List Sign → Prop where
  | nil : TakesTurns plan []
  | last : TakesTurns plan [.probe true]
  | probe (yes : Bool) {w : List Sign} (h : TakesTurns plan w) :
      TakesTurns plan (.probe yes :: .pause (pauseAfter plan yes) :: w)

/-! ## Proofs that a session is ready -/

/-- Some failed probes, with the pause after each. -/
def failures (plan : LaunchPlan) (n : Nat) : List Sign :=
  (List.replicate n [.probe false, .pause plan.retryInterval]).flatten

/-- The histories that prove a session ready, if the instance is not one that may have been
restarted.  If it had booted at the start, one probe is enough; else there has to be another one,
later than a boot delay after the first one. -/
def Accepted (plan : LaunchPlan) (booted : Bool) (w : List Sign) : Prop :=
  if booted then ∃ n, w = failures plan n ++ [.probe true]
  else ∃ m n, w = failures plan m ++ [.probe true, .pause plan.bootDelay]
    ++ (failures plan n ++ [.probe true])

section Acceptance

variable {plan : LaunchPlan} {stabilized ready : Bool} {w : List Sign}

lemma Course.takesTurns (h : Course plan stabilized w ready) : TakesTurns plan w := by
  induction h with
  | stops => exact .nil
  | ready => exact .last
  | readyAgain => exact .probe true .last
  | retries _ ih => exact .probe false ih
  | relapses _ _ ih => exact .probe true (.probe false ih)

lemma failures_zero : failures plan 0 = [] := rfl

lemma failures_succ (n : Nat) :
    failures plan (n + 1) = .probe false :: .pause plan.retryInterval :: failures plan n := by
  simp [failures, List.replicate_succ]

lemma count_failures (n : Nat) : (failures plan n).count (.probe true) = 0 := by
  induction n with
  | zero => rfl
  | succ n ih => simp [failures_succ, ih]

/-- One more failed probe in front makes no difference. -/
lemma Accepted.retry {booted : Bool} (h : Accepted plan booted w) :
    Accepted plan booted (.probe false :: .pause plan.retryInterval :: w) := by
  cases booted with
  | true =>
      obtain ⟨n, rfl⟩ := h
      exact ⟨n + 1, by simp [failures_succ]⟩
  | false =>
      obtain ⟨m, n, rfl⟩ := h
      exact ⟨m + 1, n, by simp [failures_succ]⟩

/-- A session that is found ready has a history that proves it. -/
lemma Course.accepted (h : Course plan stabilized w ready) (hready : ready = true)
    (hstop : plan.stopOnTerminate = false) : Accepted plan stabilized w := by
  induction h with
  | stops => cases hready
  | ready hstable =>
      obtain rfl : _ = true := by simpa [hstop] using hstable
      exact ⟨0, rfl⟩
  | readyAgain hunstable =>
      obtain rfl : _ = false := by simpa [hstop] using hunstable
      exact ⟨0, 0, rfl⟩
  | retries _ ih => exact (ih hready).retry
  | relapses hunstable _ ih =>
      obtain rfl : _ = false := by simpa [hstop] using hunstable
      obtain ⟨n, rfl⟩ := ih hready
      exact ⟨0, n + 1, by simp [failures_succ, failures_zero]⟩

/-- A restarted instance has to answer again after a boot delay, however long it has been up. -/
lemma Course.answersAgain (h : Course plan stabilized w ready) (hready : ready = true)
    (hstop : plan.stopOnTerminate = true) :
    ∃ front, w = front ++ [.probe true, .pause plan.bootDelay, .probe true] := by
  induction h with
  | stops => cases hready
  | ready hstable => simp [hstop] at hstable
  | readyAgain => exact ⟨[], rfl⟩
  | retries _ ih =>
      obtain ⟨front, rfl⟩ := ih hready
      exact ⟨_ :: _ :: front, rfl⟩
  | relapses _ _ ih =>
      obtain ⟨front, rfl⟩ := ih hready
      exact ⟨_ :: _ :: _ :: _ :: front, rfl⟩

/-- How often the service says yes in a proof that it is ready. -/
lemma Accepted.count_eq {booted : Bool} (h : Accepted plan booted w) :
    w.count (.probe true) = if booted then 1 else 2 := by
  cases booted with
  | true =>
      obtain ⟨n, rfl⟩ := h
      simp [count_failures]
  | false =>
      obtain ⟨m, n, rfl⟩ := h
      simp [count_failures]

/-- A service that is not found ready says yes less often than that. -/
lemma Course.count_lt (h : Course plan stabilized w ready) (hready : ready = false)
    (hstop : plan.stopOnTerminate = false) :
    w.count (.probe true) < if stabilized then 1 else 2 := by
  induction h with
  | @stops stabilized => cases stabilized <;> simp
  | ready | readyAgain => cases hready
  | retries _ ih => simpa using ih hready
  | relapses hunstable _ ih =>
      obtain rfl : _ = false := by simpa [hstop] using hunstable
      have hfew := ih hready
      simp only [if_true, Nat.lt_one_iff] at hfew
      simp [hfew]

/-- Nothing proves a session ready that is not found ready. -/
lemma Course.not_accepted (h : Course plan stabilized w ready) (hready : ready = false)
    (hstop : plan.stopOnTerminate = false) {w' : List Sign} (hearlier : w' <+: w) :
    ¬ Accepted plan stabilized w' := by
  intro haccepted
  have hcount := haccepted.count_eq
  have hfew := h.count_lt hready hstop
  have hle := hearlier.sublist.count_le (.probe true)
  omega

lemma Accepted.getLast?_eq {booted : Bool} (h : Accepted plan booted w) :
    w.getLast? = some (.probe true) := by
  cases booted with
  | true =>
      obtain ⟨n, rfl⟩ := h
      exact List.getLast?_concat
  | false =>
      obtain ⟨m, n, rfl⟩ := h
      rw [← List.append_assoc]
      exact List.getLast?_concat

/-- No proof contains an earlier one. -/
lemma Accepted.eq_of_prefix {booted : Bool} (h : Accepted plan booted w) {w' : List Sign}
    (h' : Accepted plan booted w') (hearlier : w' <+: w) : w' = w := by
  obtain ⟨rest, rfl⟩ := hearlier
  have hlast := h.getLast?_eq
  have hcount : rest.count (.probe true) = 0 := by
    have hboth := h.count_eq
    rw [List.count_append, h'.count_eq] at hboth
    omega
  rcases List.eq_nil_or_concat rest with rfl | ⟨front, s, rfl⟩
  · rw [List.append_nil]
  · have hyes : s = .probe true := by simpa using hlast
    simp [hyes] at hcount

end Acceptance

/-! ## The whole wait -/

/-- **A session is proven ready.**  The history of a run of the wait from some moment on, and what
it says about the session. -/
structure ProvenReady (world : Surroundings σ) (plan : LaunchPlan) (scene : Scene σ)
    (run : Run signature (Scene σ) (Except LaunchError SessionTarget)) : Prop where
  inTime : ProbesInTime world ⟨scene.clock, plan.deadline⟩ run.exchanges
  takesTurns : TakesTurns plan (history run.events)
  /-- The last thing that happens to a session before it is returned is a probe that is answered
  with yes; after it there are progress lines only. -/
  endsInYes : ∀ target, run.result = some (.ok target) → ∃ front budget reply tail,
    run.events = front ++ pinged budget reply :: tail ∧ answersYes reply = true
      ∧ ∀ x ∈ tail, ∃ line, x = said line
  accepted : plan.stopOnTerminate = false → ∀ target, run.result = some (.ok target) →
    Accepted plan (plan.alreadyBooted (world.today scene.memory scene.clock)) (history run.events)
  answersAgain : plan.stopOnTerminate = true → ∀ target, run.result = some (.ok target) →
    ∃ front, history run.events
      = front ++ [.probe true, .pause plan.bootDelay, .probe true]
  /-- The first proof is the end of the wait, so a run that ends with an error never had one. -/
  notMissed : plan.stopOnTerminate = false → ∀ w, w <+: history run.events →
    Accepted plan (plan.alreadyBooted (world.today scene.memory scene.clock)) w →
      w = history run.events ∧ ∃ target, run.result = some (.ok target)

section Establishment

variable {world : Surroundings σ} {plan : LaunchPlan} {deadline : Deadline} {rounds : Nat}
  {stabilized : Bool} {scene : Scene σ} {es : List Event}

lemma ProbingPass.endsInYes (h : ProbingPass plan deadline stabilized es .ready) :
    ∃ front budget reply, es = front ++ [pinged budget reply] ∧ answersYes reply = true := by
  cases h with
  | @answers t reply hreply => exact ⟨[looked t], _, reply, rfl, hreply⟩
  | @answersAgain t t' reply reply' _ _ hreply' =>
      refine ⟨probing deadline t reply ++ (stabilizing plan ++ [looked t']),
        deadline.limit - (t' - deadline.start), reply', ?_, hreply'⟩
      simp [probing]

lemma Wait.endsInYes {o : Option (Except LaunchError Unit)}
    (h : Wait plan deadline rounds stabilized es o) (ho : o = some (.ok ())) :
    ∃ front budget reply tail, es = front ++ pinged budget reply :: tail
      ∧ answersYes reply = true ∧ ∀ x ∈ tail, ∃ line, x = said line := by
  induction h with
  | outOfRounds | late => cases ho
  | @ready _ _ t _ es hpass =>
      obtain ⟨front, budget, reply, rfl, hreply⟩ := hpass.endsInYes
      refine ⟨looked t :: front, budget, reply,
        [said ("Connected to " ++ plan.displayName ++ ".")], ?_, hreply, by simp⟩
      simp only [List.cons_append, List.append_assoc, List.nil_append]
  | @again _ _ _ t _ pass rest _ _ _ ih =>
      obtain ⟨front, budget, reply, tail, rfl, hreply, htail⟩ := ih ho
      exact ⟨looked t :: pass ++ slept plan.retryInterval :: front, budget, reply, tail, by simp,
        hreply, htail⟩

lemma exists_ok_of_isOk {α : Type} {o : Option (Except LaunchError α)}
    (h : o.any Except.isOk = true) : ∃ a, o = some (.ok a) := by
  rcases o with _ | _ | a
  · cases h
  · cases h
  · exact ⟨a, rfl⟩

lemma isOk_map {o : Option (Except LaunchError Unit)} {target : SessionTarget} :
    (o.map (Except.map fun _ => target)).any Except.isOk = o.any Except.isOk := by
  rcases o with _ | _ | _ <;> rfl

lemma Establishment.probesInTime {o : Option (Except LaunchError SessionTarget)}
    (h : Establishment plan rounds es o) (hanswered : Answered world.respond scene es) :
    ProbesInTime world ⟨scene.clock, plan.deadline⟩ (exchangesFrom world.respond scene es) := by
  have hopening : ∀ start now, ∀ x ∈ opening plan start now, ∀ budget,
      x.request ≠ .ping budget := by simp [opening, looked, said, dated]
  cases h with
  | unresolved _ hsearch =>
      rw [probesInTime_append]
      exact ⟨probesInTime_of_ne_ping (hopening _ _), probesInTime_of_ne_ping hsearch.ne_ping⟩
  | resolved hsearch hwait =>
      rw [List.append_assoc] at hanswered
      obtain ⟨rfl, hrest⟩ := answered_opening_append hanswered
      rw [answered_append_iff] at hrest
      rw [probesInTime_append, probesInTime_append]
      exact ⟨⟨probesInTime_of_ne_ping (hopening _ _), probesInTime_of_ne_ping hsearch.ne_ping⟩,
        hwait.probesInTime hrest.2⟩

/-- **The history of every wait is a course.** -/
lemma Establishment.course {o : Option (Except LaunchError SessionTarget)}
    (h : Establishment plan rounds es o) (hanswered : Answered world.respond scene es) :
    Course plan (plan.alreadyBooted (world.today scene.memory scene.clock)) (history es)
      (o.any Except.isOk) := by
  cases h with
  | unresolved ho hsearch =>
      have hnone : o.any Except.isOk = false := by
        rw [← Bool.not_eq_true]
        intro hok
        obtain ⟨target, hfound⟩ := exists_ok_of_isOk hok
        exact ho target hfound
      rw [history_opening, hsearch.history_of_ne ho, hnone]
      exact .stops
  | @resolved start now es es' target o hsearch hwait =>
      rw [List.append_assoc] at hanswered ⊢
      have hdate : now = world.today scene.memory scene.clock := hanswered.2.2.1
      rw [history_opening, hsearch.history_append, isOk_map, ← hdate]
      exact hwait.course

lemma Establishment.endsInYes {o : Option (Except LaunchError SessionTarget)}
    (h : Establishment plan rounds es o) {target : SessionTarget}
    (ho : o = some (.ok target)) :
    ∃ front budget reply tail, es = front ++ pinged budget reply :: tail
      ∧ answersYes reply = true ∧ ∀ x ∈ tail, ∃ line, x = said line := by
  cases h with
  | unresolved hne => exact absurd ho (hne target)
  | @resolved start now es es' _ o _ hwait =>
      have hready : o.any Except.isOk = true := by
        rw [← isOk_map, ho]
        rfl
      obtain ⟨_, hfound⟩ := exists_ok_of_isOk hready
      obtain ⟨front, budget, reply, tail, rfl, hreply, htail⟩ := hwait.endsInYes hfound
      exact ⟨_, budget, reply, tail, (List.append_assoc ..).symm, hreply, htail⟩

lemma Establishment.provenReady {o : Option (Except LaunchError SessionTarget)}
    (h : Establishment plan rounds es o) (hanswered : Answered world.respond scene es) :
    ProvenReady world plan scene
      ⟨o, stateAfter world.respond scene es, exchangesFrom world.respond scene es⟩ := by
  have hevents : Run.events
      ⟨o, stateAfter world.respond scene es, exchangesFrom world.respond scene es⟩ = es :=
    exchangesFrom_map_event ..
  have hcourse := h.course hanswered
  have hready : ∀ {target}, o = some (.ok target) → o.any Except.isOk = true := by
    rintro target rfl
    rfl
  constructor
  case inTime => exact h.probesInTime hanswered
  case takesTurns =>
    rw [hevents]
    exact hcourse.takesTurns
  case endsInYes =>
    intro target hresult
    rw [hevents]
    exact h.endsInYes hresult
  case accepted =>
    intro hstop target hresult
    rw [hevents]
    exact hcourse.accepted (hready hresult) hstop
  case answersAgain =>
    intro hstop target hresult
    rw [hevents]
    exact hcourse.answersAgain (hready hresult) hstop
  case notMissed =>
    intro hstop w hearlier haccepted
    rw [hevents] at hearlier ⊢
    cases hfound : o.any Except.isOk with
    | false => exact absurd haccepted (hcourse.not_accepted hfound hstop hearlier)
    | true =>
        have hproof := hcourse.accepted hfound hstop
        exact ⟨hproof.eq_of_prefix haccepted hearlier, exists_ok_of_isOk hfound⟩

/-- **Every session that is returned is proven ready.**  Whatever the surroundings do, a wait
returns a session only after a history that proves it ready, and unless the instance may have been
restarted, it does so after the first such history. -/
theorem establish_provenReady (world : Surroundings σ) (plan : LaunchPlan) (rounds : Nat)
    (scene : Scene σ) :
    ProvenReady world plan scene (world.run (establish plan rounds).run scene) :=
  forall_run_establish fun _ _ h hanswered => h.provenReady hanswered

end Establishment

/-! ## The pauses in which a service becomes stable -/

/-- How many of the pauses are those in which the service becomes stable. -/
def delayCount : List Sign → Nat
  | .probe true :: .pause _ :: w => delayCount w + 1
  | _ :: w => delayCount w
  | [] => 0

/-- How often the service has answered, and no more after the pause in which it should have become
stable. -/
def relapseCount : List Sign → Nat
  | .probe true :: .pause _ :: .probe false :: w => relapseCount w + 1
  | _ :: w => relapseCount w
  | [] => 0

/-- How often a history pauses for the service to become stable. -/
structure Delays (plan : LaunchPlan) (booted : Bool) (w : List Sign) (ready : Bool) : Prop where
  /-- These pauses are the boot delays, if their length tells them from the others. -/
  count_eq : plan.bootDelay ≠ plan.retryInterval →
    delayCount w = w.count (.pause plan.bootDelay)
  /-- Once at most, unless the instance may have been restarted. -/
  once : plan.stopOnTerminate = false → delayCount w ≤ if booted then 0 else 1
  /-- For an instance that may have been restarted, every answer is followed by such a pause, also
  after an earlier one. -/
  everyTime : plan.stopOnTerminate = true → delayCount w = relapseCount w + if ready then 1 else 0

section Delays

variable {plan : LaunchPlan} {stabilized ready : Bool} {w : List Sign}

lemma TakesTurns.delayCount_eq (h : TakesTurns plan w)
    (hlength : plan.bootDelay ≠ plan.retryInterval) :
    delayCount w = w.count (.pause plan.bootDelay) := by
  induction h with
  | nil | last => simp [delayCount]
  | probe yes _ ih =>
      cases yes with
      | true => simp [delayCount, pauseAfter, ih]
      | false => simp [delayCount, pauseAfter, ih, hlength.symm]

lemma Course.delays_le (h : Course plan stabilized w ready)
    (hstop : plan.stopOnTerminate = false) : delayCount w ≤ if stabilized then 0 else 1 := by
  induction h with
  | stops | ready => simp [delayCount]
  | readyAgain hunstable =>
      obtain rfl : _ = false := by simpa [hstop] using hunstable
      simp [delayCount]
  | retries _ ih => simpa [delayCount] using ih
  | relapses hunstable _ ih =>
      obtain rfl : _ = false := by simpa [hstop] using hunstable
      simpa [delayCount] using ih

lemma Course.delays_eq (h : Course plan stabilized w ready)
    (hstop : plan.stopOnTerminate = true) :
    delayCount w = relapseCount w + if ready then 1 else 0 := by
  induction h with
  | stops => rfl
  | ready hstable => simp [hstop] at hstable
  | readyAgain => rfl
  | retries _ ih => simpa [delayCount, relapseCount] using ih
  | relapses _ _ ih =>
      simp only [delayCount, relapseCount, ih]
      omega

variable {world : Surroundings σ} {scene : Scene σ}

/-- **How often a wait delays.**  It does so once at most, unless the instance may have been
restarted.  In that case it does so after every answer, however often the service relapses. -/
theorem establish_delays (world : Surroundings σ) (plan : LaunchPlan) (rounds : Nat)
    (scene : Scene σ) :
    Delays plan (plan.alreadyBooted (world.today scene.memory scene.clock))
      (history (world.run (establish plan rounds).run scene).events)
      ((world.run (establish plan rounds).run scene).result.any Except.isOk) := by
  refine forall_run_establish (P := fun run =>
    Delays plan (plan.alreadyBooted (world.today scene.memory scene.clock))
      (history run.events) (run.result.any Except.isOk)) ?_
  intro es o h hanswered
  have hcourse := h.course hanswered
  rw [Run.events, exchangesFrom_map_event]
  exact ⟨hcourse.takesTurns.delayCount_eq, hcourse.delays_le, hcourse.delays_eq⟩

/-- A rehearsal with a fresh instance, which may have been restarted or not, and whose service
relapses once. -/
def relapsing (restarted : Bool) : Rehearsal.Report (Except LaunchError SessionTarget) :=
  let plan : LaunchPlan :=
    { instanceId := "i-1", createdAt := ⟨0, 0, 0⟩, security := .suppliedPassword,
      adminPassword := some ⟨"secret"⟩, launchTimeout := 600000, bootDelay := 20000,
      stopOnTerminate := restarted }
  let script : Rehearsal.Script :=
    { ping := [some (.answers 0 (.ok true)), some (.answers 0 (.ok false))] }
  Rehearsal.rehearse ⟨0, 0, 0⟩ (establish plan plan.rounds).run ⟨{ script }, 0⟩

/-- If the instance may have been restarted, its service is given the pause a second time. -/
theorem relapsing_delays :
    history (relapsing true).events
        = [.probe true, .pause 20000, .probe false, .pause 10000, .probe true, .pause 20000,
          .probe true]
      ∧ delayCount (history (relapsing true).events) = 2 :=
  ⟨rfl, rfl⟩

-- Otherwise one answer after the relapse is enough.
example : history (relapsing false).events
    = [.probe true, .pause 20000, .probe false, .pause 10000, .probe true] := by
  rfl

end Delays

end AgentLaunch.Attempt
