import AgentLaunch.Proofs.Attempt.Handover
import AgentLaunch.Proofs.Attempt.Waiting

/-!
# What an attempt looks like

An attempt is a wait for the management service and, if that gives a session, what is done with
it: the canonical sequence up to the agent, which completes or stops, and handing the agent over.

* `UsesSession` — what is done with a session that is ready.
* `LaunchCourse` — a whole attempt.
* **`transcript_launch`** — every transcript of an attempt is one of these.
* `Concludes.identifiesNothing` — once the wait is over, where and as whom is settled.

These shapes are the interface to the properties of a whole attempt.  Whatever is shown of one,
about its session, its files, its lines or its errors, is proved by cases on `LaunchCourse` and on
`UsesSession`, and the definitions of the stages need not be opened for it.  A shape keeps the
script that was followed and the answers it was followed with, so nothing is lost on the way.

`farewell` is what an attempt says about the error that it ends with.  A timeout is the one error
with an outcome of its own, and `conclude_error` is about all others.
-/

namespace AgentLaunch.Attempt

open Dialogue

/-- The line that tells why an attempt has failed.  A failed command has been told before. -/
def farewell : LaunchError → List Event
  | .commandFailed _ _ => []
  | e => [said ("Launch failed: " ++ e.message)]

/-- The outcome of handing an agent over. -/
def outcomeOf : Except LaunchError Unit → Outcome
  | .ok () => .channelEstablished
  | .error e => .aborted e.message

/-- The line that tells how handing an agent over has failed. -/
def farewellOf : Except LaunchError Unit → List Event
  | .ok () => []
  | .error e => farewell e

/-- What is done with a session that is ready, and what comes of it. -/
inductive UsesSession (plan : LaunchPlan) : List Event → Outcome → Prop where
  | notProvisioned {a : Answers} {es : List Event} {e : LaunchError}
      (hstop : Stops (provisionScript plan a) es e) :
      UsesSession plan (es ++ called .closeSession () :: farewell e) (.aborted e.message)
  | provisioned {a : Answers} {es es' : List Event} {r : Except LaunchError Unit}
      (hdone : Completes (provisionScript plan a) es)
      (hhand : HandsOver a.agent plan.displayName es' r) :
      UsesSession plan (es ++ (es' ++ farewellOf r)) (outcomeOf r)

/-- What follows the wait for the management service. -/
def conclude (plan : LaunchPlan) : Except LaunchError SessionTarget → Activity Outcome
  | .error (.timeout waitedSecs) => do
    log (LaunchError.timeout waitedSecs).message
    pure (.timedOut waitedSecs)
  | .error e => abort e
  | .ok _ => useSession plan

lemma conclude_error {plan : LaunchPlan} {e : LaunchError} (he : ∀ secs, e ≠ .timeout secs) :
    conclude plan (.error e) = abort e := by
  cases e
  case timeout secs => exact absurd rfl (he secs)
  all_goals rfl

lemma launch_eq (plan : LaunchPlan) (rounds : Nat) :
    launch plan rounds = (establish plan rounds).run >>= conclude plan := by
  refine congrArg ((establish plan rounds).run >>= ·) (funext fun waited => ?_)
  rcases waited with e | target
  · cases e <;> rfl
  · rfl

/-- How an attempt goes on from the result of its wait, and its outcome. -/
inductive Concludes (plan : LaunchPlan) :
    Except LaunchError SessionTarget → List Event → Outcome → Prop where
  | timedOut {secs : Nat} :
      Concludes plan (.error (.timeout secs)) [said (LaunchError.timeout secs).message]
        (.timedOut secs)
  | failed {e : LaunchError} (he : ∀ secs, e ≠ .timeout secs) :
      Concludes plan (.error e) (farewell e) (.aborted e.message)
  | connected {target : SessionTarget} {es : List Event} {outcome : Outcome}
      (huse : UsesSession plan es outcome) : Concludes plan (.ok target) es outcome

/-- A whole attempt with some number of rounds for each of its waits, and its outcome. -/
inductive LaunchCourse (plan : LaunchPlan) (rounds : Nat) :
    List Event → Option Outcome → Prop where
  | unfinished {es : List Event} (hwait : Establishment plan rounds es none) :
      LaunchCourse plan rounds es none
  | concluded {es es' : List Event} {r : Except LaunchError SessionTarget} {outcome : Outcome}
      (hwait : Establishment plan rounds es (some r)) (h : Concludes plan r es' outcome) :
      LaunchCourse plan rounds (es ++ es') (some outcome)

section Transcripts

variable {plan : LaunchPlan} {es : List Event}

lemma transcript_abort {e : LaunchError} {o : Option Outcome}
    (ht : Transcript (abort e) es o) : es = farewell e ∧ o = some (.aborted e.message) := by
  cases e
  case commandFailed =>
    obtain ⟨rfl, rfl⟩ := transcript_done_iff.mp ht
    exact ⟨rfl, rfl⟩
  all_goals
    obtain ⟨_, hdone, rfl⟩ := transcript_log_bind_iff.mp ht
    obtain ⟨rfl, rfl⟩ := transcript_done_iff.mp hdone
    exact ⟨rfl, rfl⟩

lemma transcript_useSession {o : Option Outcome} (ht : Transcript (useSession plan) es o) :
    ∃ outcome, UsesSession plan es outcome ∧ o = some outcome := by
  rcases transcript_bind_iff.mp ht with ⟨_, provisioned, _, hfirst, hrest, rfl⟩ | ⟨hfirst, rfl⟩
  · rcases (follows_provision plan).course _ _ hfirst with
      ⟨_, agent, ⟨a, rfl, rfl⟩, hdone, ho⟩ | ⟨_, _, e, ⟨a, -, rfl⟩, hstop, ho⟩
    · obtain rfl := Option.some.inj ho
      rcases transcript_bind_iff.mp hrest with
        ⟨_, handed, _, hhand, hlast, rfl⟩ | ⟨hhand, rfl⟩
      · obtain ⟨_, hover, ho'⟩ := transcript_handOver hhand
        obtain rfl := Option.some.inj ho'
        cases handed with
        | ok =>
            obtain ⟨rfl, rfl⟩ := transcript_done_iff.mp hlast
            exact ⟨_, .provisioned hdone hover, rfl⟩
        | error e =>
            obtain ⟨rfl, rfl⟩ := transcript_abort hlast
            exact ⟨_, .provisioned hdone hover, rfl⟩
      · obtain ⟨_, -, ho'⟩ := transcript_handOver hhand
        simp at ho'
    · obtain rfl := Option.some.inj ho
      obtain ⟨_, _, habort, rfl⟩ := transcript_call_bind_iff.mp hrest
      obtain ⟨rfl, rfl⟩ := transcript_abort habort
      exact ⟨_, .notProvisioned hstop, rfl⟩
  · rcases (follows_provision plan).course _ _ hfirst with
      ⟨_, _, _, _, ho⟩ | ⟨_, _, _, _, _, ho⟩
    · simp at ho
    · simp at ho

lemma transcript_conclude {r : Except LaunchError SessionTarget} {o : Option Outcome}
    (ht : Transcript (conclude plan r) es o) :
    ∃ outcome, Concludes plan r es outcome ∧ o = some outcome := by
  cases r with
  | ok target =>
      obtain ⟨outcome, huse, rfl⟩ := transcript_useSession ht
      exact ⟨outcome, .connected huse, rfl⟩
  | error e =>
      by_cases hlate : ∃ secs, e = .timeout secs
      · obtain ⟨secs, rfl⟩ := hlate
        obtain ⟨_, hdone, rfl⟩ := transcript_log_bind_iff.mp ht
        obtain ⟨rfl, rfl⟩ := transcript_done_iff.mp hdone
        exact ⟨_, .timedOut, rfl⟩
      · have he := not_exists.mp hlate
        rw [conclude_error he] at ht
        obtain ⟨rfl, rfl⟩ := transcript_abort ht
        exact ⟨_, .failed he, rfl⟩

/-- **The shape of every attempt.** -/
theorem transcript_launch {rounds : Nat} {o : Option Outcome}
    (ht : Transcript (launch plan rounds) es o) : LaunchCourse plan rounds es o := by
  rw [launch_eq] at ht
  rcases transcript_bind_iff.mp ht with ⟨_, r, _, hwait, hrest, rfl⟩ | ⟨hwait, rfl⟩
  · obtain ⟨_, h, rfl⟩ := transcript_conclude hrest
    exact .concluded (transcript_establish hwait) h
  · exact .unfinished (transcript_establish hwait)

end Transcripts

/-! ## After the wait -/

/-- Requests that find out where a session is opened and as whom, or open it. -/
def Request.Identifies : Request → Prop
  | .call (.describe _) => True
  | .call (.encryptedPassword _) => True
  | .call (.decrypt _) => True
  | .call (.openSession _) => True
  | _ => False

section Identified

variable {plan : LaunchPlan} {es : List Event}

lemma not_identifies_provisionScript (plan : LaunchPlan) (a : Answers) :
    ∀ step ∈ provisionScript plan a, step.Always fun x => ¬ x.request.Identifies := by
  rw [provisionScript_eq]
  intro step hstep
  rcases List.mem_append.mp hstep with hbefore | hagent
  · have hprepares := prepares_beforeAgent plan a step hbefore
    cases step with
    | say line => exact id
    | ask c expected setback? =>
        cases c with
        | describe | encryptedPassword | decrypt | openSession => exact hprepares.elim
        | _ => exact fun _ => id
  · obtain rfl := List.mem_singleton.mp hagent
    exact fun _ => id

lemma Request.Final.not_identifies {r : Request} (h : r.Final) : ¬ r.Identifies := by
  rcases h with h | ⟨hook, rfl⟩
  · rcases r with _ | _ | _ | _ | _ | c
    case call => cases c <;> first | exact h.elim | exact id
    all_goals exact id
  · exact id

lemma HandsOver.identifiesNothing {agent : ProcessId} {name : String} {r : Except LaunchError Unit}
    (h : HandsOver agent name es r) : ∀ x ∈ es, ¬ x.request.Identifies := by
  have hfinal : ∀ {rest : List Event}, (∀ r ∈ requests rest, r.Final) →
      ∀ x ∈ rest, ¬ x.request.Identifies :=
    fun hrest x hx => (hrest _ (List.mem_map_of_mem hx)).not_identifies
  cases h with
  | noStreams _ hrest =>
      have hrest := hfinal fun r hr => .inl (cleansUp_tearDownRequests agent r (hrest ▸ hr))
      simpa [called, Request.Identifies] using hrest
  | offered channel hrest =>
      have hrest := hfinal fun r hr => final_requestsAfterBind name agent channel r (hrest ▸ hr)
      simpa [called, Request.Identifies] using hrest

lemma not_identifies_farewell (e : LaunchError) : ∀ x ∈ farewell e, ¬ x.request.Identifies := by
  cases e <;> simp [farewell, said, Request.Identifies]

lemma UsesSession.identifiesNothing {outcome : Outcome} (h : UsesSession plan es outcome) :
    ∀ x ∈ es, ¬ x.request.Identifies := by
  cases h with
  | @notProvisioned a es e hstop =>
      have hbefore := hstop.forall_mem (fun _ => id) (not_identifies_provisionScript plan a)
      simp only [List.forall_mem_append, List.forall_mem_cons]
      exact ⟨hbefore, id, not_identifies_farewell e⟩
  | @provisioned a es es' r hdone hhand =>
      have hbefore := hdone.forall_mem (not_identifies_provisionScript plan a)
      have hlast : ∀ x ∈ farewellOf r, ¬ x.request.Identifies := by
        cases r with
        | ok => simp [farewellOf]
        | error e => exact not_identifies_farewell e
      simp only [List.forall_mem_append]
      exact ⟨hbefore, hhand.identifiesNothing, hlast⟩

/-- **After the wait nobody asks again** for an address or a password, and no other session is
opened. -/
lemma Concludes.identifiesNothing {r : Except LaunchError SessionTarget} {outcome : Outcome}
    (h : Concludes plan r es outcome) : ∀ x ∈ es, ¬ x.request.Identifies := by
  cases h with
  | timedOut => simp [said, Request.Identifies]
  | failed => exact not_identifies_farewell _
  | connected huse => exact huse.identifiesNothing

end Identified

end AgentLaunch.Attempt
