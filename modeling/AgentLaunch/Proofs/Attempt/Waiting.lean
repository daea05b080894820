import AgentLaunch.Attempt.Readiness
import AgentLaunch.Proofs.Attempt.Script

/-!
# What waiting for the management service looks like

The two loops that wait for the service are described by what can be seen of them.  One pass may go
in a few ways, each with its result; a loop is a number of passes that have to be repeated, with a
pause after each, and a last one, or the look at the clock that ends the attempt.

* `FindsCredentials`, `ResolutionPass`, `Search` — from nothing to a session.
* `ProbingPass`, `Wait` — from a session to a ready one.
* **`transcript_establish`** — every transcript of the whole wait is made of these.

The inductive types follow the code: one constructor for each way through a pass, with the
conditions under which it is taken, and for the loops one constructor for a pass that is repeated
and one for each way to end.  The proofs that every transcript is of this shape take the activity
apart request by request, and the loops by induction on their rounds.

After this module the code of the two loops need not be opened to say something about every wait: it
is proved by induction on `Search` and `Wait`.  The first use is in the last section.  Whatever a
wait does to the remote host is a ping, or opens or closes the session, so no file and no process is
touched before it is over.
-/

namespace AgentLaunch.Attempt

open Dialogue

/-! ## What can be seen -/

/-- A pause. -/
def slept (duration : Nat) : Event := ⟨.sleep duration, ()⟩

/-- A look at the clock, and the time on it. -/
def looked (time : Nat) : Event := ⟨.elapsed, time⟩

/-- A look at the date. -/
def dated (now : Timestamp) : Event := ⟨.today, now⟩

/-- A ping within a budget, and what came of it. -/
def pinged (budget : Nat) (reply : Option (Except TransportError Bool)) : Event :=
  ⟨.ping budget, reply⟩

/-! ## From nothing to a session -/

/-- The warning for a configured identity that is not used. -/
def identityWarning (plan : LaunchPlan) : List Event :=
  if plan.remoteAdmin ≠ canonicalAdmin then
    [said (Progress.warning ("For password retrieval remote admin must be " ++ canonicalAdmin
      ++ ", ignoring user provided value"))]
  else []

/-- The ways of looking for credentials, and what each finds. -/
inductive FindsCredentials (plan : LaunchPlan) :
    List Event → Except LaunchError Resolution → Prop where
  | supplied (hmode : plan.security = .suppliedPassword) {password : Secret}
      (hpassword : plan.adminPassword = some password) :
      FindsCredentials plan [] (.ok (.ready ⟨plan.remoteAdmin, password⟩))
  | notSupplied (hmode : plan.security = .suppliedPassword)
      (hpassword : plan.adminPassword = none) :
      FindsCredentials plan []
        (.error (.config "supplied_password mode requires admin_password to be set"))
  | unavailable (hmode : plan.security = .derivedPassword) (e : CloudError) :
      FindsCredentials plan
        [called (.encryptedPassword plan.instanceId) (.error e),
          said ("Unexpected error fetching password data: " ++ e.message)]
        (.ok .pending)
  | notGenerated (hmode : plan.security = .derivedPassword) {reported : Option String}
      (hreported : reported.bind Text.trimmed? = none) :
      FindsCredentials plan
        [called (.encryptedPassword plan.instanceId) (.ok reported),
          said ("Waiting for password to be available. Sleeping " ++ secondsText plan.retryInterval
            ++ ".")]
        (.ok .pending)
  | undecryptable (hmode : plan.security = .derivedPassword) {reported : Option String}
      {material : String} (hreported : reported.bind Text.trimmed? = some material)
      (e : CloudError) :
      FindsCredentials plan
        [called (.encryptedPassword plan.instanceId) (.ok reported),
          called (.decrypt material) (.error e)]
        (.error (.cloud e))
  | derived (hmode : plan.security = .derivedPassword) {reported : Option String}
      {material : String} (hreported : reported.bind Text.trimmed? = some material)
      (password : Secret) :
      FindsCredentials plan
        ([called (.encryptedPassword plan.instanceId) (.ok reported),
          called (.decrypt material) (.ok password)] ++ identityWarning plan)
        (.ok (.ready ⟨canonicalAdmin, password⟩))

/-- The session that a plan opens at an address with some credentials. -/
def targetOf (plan : LaunchPlan) (host : String) (credentials : Credentials) : SessionTarget :=
  ⟨host, credentials.username, credentials.password, plan.useHttps⟩

/-- The ways of one resolution pass, and the session that each opens, if it does. -/
inductive ResolutionPass (plan : LaunchPlan) :
    List Event → Except LaunchError (Option SessionTarget) → Prop where
  | undescribed (e : CloudError) :
      ResolutionPass plan
        [called (.describe plan.instanceId) (.error e),
          said ("Unable to describe " ++ plan.instanceId ++ ": " ++ e.message)]
        (.ok none)
  | unassigned {d : InstanceDescription}
      (haddress : d.address plan.connectionStrategy = InstanceDescription.unassigned) :
      ResolutionPass plan
        [called (.describe plan.instanceId) (.ok d),
          said ("Invalid host " ++ InstanceDescription.unassigned
            ++ ", your host is most likely waiting for an ip address.")]
        (.ok none)
  | pending {d : InstanceDescription}
      (haddress : d.address plan.connectionStrategy ≠ InstanceDescription.unassigned)
      {es : List Event} (h : FindsCredentials plan es (.ok .pending)) :
      ResolutionPass plan (called (.describe plan.instanceId) (.ok d) :: es) (.ok none)
  | failed {d : InstanceDescription}
      (haddress : d.address plan.connectionStrategy ≠ InstanceDescription.unassigned)
      {es : List Event} {e : LaunchError} (h : FindsCredentials plan es (.error e)) :
      ResolutionPass plan (called (.describe plan.instanceId) (.ok d) :: es) (.error e)
  | opened {d : InstanceDescription}
      (haddress : d.address plan.connectionStrategy ≠ InstanceDescription.unassigned)
      {es : List Event} {credentials : Credentials}
      (h : FindsCredentials plan es (.ok (.ready credentials))) :
      ResolutionPass plan
        (called (.describe plan.instanceId) (.ok d) :: es
          ++ [said ("Connecting to (" ++ d.address plan.connectionStrategy ++ ") as "
              ++ credentials.username),
            called
              (.openSession (targetOf plan (d.address plan.connectionStrategy) credentials)) ()])
        (.ok (some (targetOf plan (d.address plan.connectionStrategy) credentials)))

section Resolution

variable {plan : LaunchPlan} {es : List Event}

lemma transcript_decryptCredentials {material : String}
    {o : Option (Except LaunchError Resolution)}
    (ht : Transcript (decryptCredentials plan material).run es o) :
    (∃ e : CloudError, es = [called (.decrypt material) (.error e)]
        ∧ o = some (.error (.cloud e)))
      ∨ ∃ password : Secret, es = called (.decrypt material) (.ok password) :: identityWarning plan
        ∧ o = some (.ok (.ready ⟨canonicalAdmin, password⟩)) := by
  rcases transcript_orFail_bind ht with
    ⟨_, password, rest, hdecrypt, hrest, rfl⟩ | ⟨e, hdecrypt, rfl⟩ | ⟨hdecrypt, rfl⟩
  · obtain rfl := transcript_call_some_iff.mp hdecrypt
    refine .inr ⟨password, ?_⟩
    by_cases hadmin : plan.remoteAdmin = canonicalAdmin
    · rw [if_neg (not_not_intro hadmin)] at hrest
      obtain ⟨rfl, rfl⟩ := transcript_run_pure_iff.mp hrest
      exact ⟨by simp [identityWarning, hadmin], rfl⟩
    · rw [if_pos hadmin] at hrest
      obtain ⟨_, hpure, rfl⟩ := transcript_stage_log_bind_iff.mp hrest
      obtain ⟨rfl, rfl⟩ := transcript_run_pure_iff.mp hpure
      exact ⟨by simp [identityWarning, hadmin], rfl⟩
  · obtain rfl := transcript_call_some_iff.mp hdecrypt
    exact .inl ⟨e, rfl, rfl⟩
  · exact absurd hdecrypt not_transcript_call_none

lemma transcript_resolveCredentials {o : Option (Except LaunchError Resolution)}
    (ht : Transcript (resolveCredentials plan).run es o) :
    ∃ r, FindsCredentials plan es r ∧ o = some r := by
  unfold resolveCredentials at ht
  cases hmode : plan.security with
  | suppliedPassword =>
      rw [hmode] at ht
      cases hpassword : plan.adminPassword with
      | some password =>
          rw [hpassword] at ht
          obtain ⟨rfl, rfl⟩ := transcript_run_pure_iff.mp ht
          exact ⟨_, .supplied hmode hpassword, rfl⟩
      | none =>
          rw [hpassword] at ht
          obtain ⟨rfl, rfl⟩ := transcript_run_throw_iff.mp ht
          exact ⟨_, .notSupplied hmode hpassword, rfl⟩
  | derivedPassword =>
      rw [hmode] at ht
      obtain ⟨e | reported, rest, hrest, rfl⟩ := transcript_stage_call_bind_iff.mp ht
      · obtain ⟨_, hpure, rfl⟩ := transcript_stage_log_bind_iff.mp hrest
        obtain ⟨rfl, rfl⟩ := transcript_run_pure_iff.mp hpure
        exact ⟨_, .unavailable hmode e, rfl⟩
      · cases hreported : reported.bind Text.trimmed? with
        | none =>
            simp only [hreported] at hrest
            obtain ⟨_, hpure, rfl⟩ := transcript_stage_log_bind_iff.mp hrest
            obtain ⟨rfl, rfl⟩ := transcript_run_pure_iff.mp hpure
            exact ⟨_, .notGenerated hmode hreported, rfl⟩
        | some material =>
            simp only [hreported] at hrest
            rcases transcript_decryptCredentials hrest with ⟨e, rfl, rfl⟩ | ⟨password, rfl, rfl⟩
            · exact ⟨_, .undecryptable hmode hreported e, rfl⟩
            · exact ⟨_, .derived hmode hreported password, rfl⟩

lemma transcript_resolutionPass {o : Option (Except LaunchError (Option SessionTarget))}
    (ht : Transcript (resolutionPass plan).run es o) :
    ∃ r, ResolutionPass plan es r ∧ o = some r := by
  obtain ⟨e | d, rest, hrest, rfl⟩ := transcript_stage_call_bind_iff.mp ht
  · obtain ⟨_, hpure, rfl⟩ := transcript_stage_log_bind_iff.mp hrest
    obtain ⟨rfl, rfl⟩ := transcript_run_pure_iff.mp hpure
    exact ⟨_, .undescribed e, rfl⟩
  · by_cases haddress : d.address plan.connectionStrategy = InstanceDescription.unassigned
    · simp only [haddress, if_true] at hrest
      obtain ⟨_, hpure, rfl⟩ := transcript_stage_log_bind_iff.mp hrest
      obtain ⟨rfl, rfl⟩ := transcript_run_pure_iff.mp hpure
      exact ⟨_, .unassigned haddress, rfl⟩
    · simp only [haddress, if_false] at hrest
      rcases transcript_run_bind_iff.mp hrest with
        ⟨_, found, _, hfirst, hsecond, rfl⟩ | ⟨_, hfirst, rfl⟩ | ⟨hfirst, rfl⟩
      · obtain ⟨_, hfinds, ho⟩ := transcript_resolveCredentials hfirst
        obtain rfl := Option.some.inj ho
        cases found with
        | ready credentials =>
            obtain ⟨_, _, hopen, rfl⟩ := transcript_ask_iff.mp hsecond
            obtain ⟨_, _, hdone, rfl⟩ := transcript_ask_iff.mp hopen
            obtain ⟨rfl, rfl⟩ := transcript_done_iff.mp hdone
            exact ⟨_, .opened haddress hfinds, rfl⟩
        | pending =>
            obtain ⟨rfl, rfl⟩ := transcript_run_pure_iff.mp hsecond
            exact ⟨_, .pending haddress (by simpa using hfinds), rfl⟩
      · obtain ⟨_, hfinds, ho⟩ := transcript_resolveCredentials hfirst
        obtain rfl := Option.some.inj ho
        exact ⟨_, .failed haddress hfinds, rfl⟩
      · obtain ⟨_, -, ho⟩ := transcript_resolveCredentials hfirst
        simp at ho

lemma ResolutionPass.of_transcript {r : Except LaunchError (Option SessionTarget)}
    (ht : Transcript (resolutionPass plan).run es (some r)) : ResolutionPass plan es r := by
  obtain ⟨_, hpass, ho⟩ := transcript_resolutionPass ht
  obtain rfl := Option.some.inj ho
  exact hpass

/-- A resolution pass does not fail because of the time. -/
lemma ResolutionPass.ne_timeout {e : LaunchError} (h : ResolutionPass plan es (.error e))
    (secs : Nat) : e ≠ .timeout secs := by
  cases h with
  | failed _ hfinds =>
      cases hfinds with
      | notSupplied => simp
      | undecryptable => simp

end Resolution

/-- The search for a session with some number of rounds: passes to be repeated, with a pause after
each, and how the search ends. -/
inductive Search (plan : LaunchPlan) (deadline : Deadline) :
    Nat → List Event → Option (Except LaunchError SessionTarget) → Prop where
  | outOfRounds : Search plan deadline 0 [] none
  | late {rounds t : Nat} (ht : deadline.limit < t - deadline.start) :
      Search plan deadline (rounds + 1) [looked t]
        (some (.error (timedOut (t - deadline.start))))
  | opened {rounds t : Nat} (ht : t - deadline.start ≤ deadline.limit) {es : List Event}
      {target : SessionTarget}
      (hpass : Transcript (resolutionPass plan).run es (some (.ok (some target)))) :
      Search plan deadline (rounds + 1) (looked t :: es) (some (.ok target))
  | failed {rounds t : Nat} (ht : t - deadline.start ≤ deadline.limit) {es : List Event}
      {e : LaunchError} (hpass : Transcript (resolutionPass plan).run es (some (.error e))) :
      Search plan deadline (rounds + 1) (looked t :: es) (some (.error e))
  | again {rounds t : Nat} (ht : t - deadline.start ≤ deadline.limit) {es rest : List Event}
      {o : Option (Except LaunchError SessionTarget)}
      (hpass : Transcript (resolutionPass plan).run es (some (.ok none)))
      (h : Search plan deadline rounds rest o) :
      Search plan deadline (rounds + 1) (looked t :: es ++ slept plan.retryInterval :: rest) o

section Deadlines

variable {α : Type} {es : List Event} {deadline : Deadline}

/-- A check of the deadline is a look at the clock. -/
lemma transcript_overrun_bind {f : Option Nat → Stage α} {o : Option (Except LaunchError α)}
    (ht : Transcript ((liftM deadline.overrun? : Stage (Option Nat)) >>= f).run es o) :
    ∃ t rest, es = looked t :: rest
      ∧ (deadline.limit < t - deadline.start
          ∧ Transcript (f (some (t - deadline.start))).run rest o
        ∨ t - deadline.start ≤ deadline.limit ∧ Transcript (f none).run rest o) := by
  rcases transcript_run_lift_bind_iff.mp ht with ⟨_, _, rest, hlook, hrest, rfl⟩ | ⟨hlook, rfl⟩
  all_goals obtain ⟨t, _, hdone, rfl⟩ := transcript_request_bind_iff.mp hlook
  · obtain ⟨rfl, ho⟩ := transcript_done_iff.mp hdone
    obtain rfl := Option.some.inj ho
    refine ⟨t, rest, rfl, ?_⟩
    by_cases hlate : deadline.limit < t - deadline.start
    · rw [if_pos hlate] at hrest
      exact .inl ⟨hlate, hrest⟩
    · rw [if_neg hlate] at hrest
      exact .inr ⟨Nat.le_of_not_lt hlate, hrest⟩
  · obtain ⟨-, ho⟩ := transcript_done_iff.mp hdone
    simp at ho

lemma transcript_sleep_bind {d : Nat} {f : Unit → Stage α} {o : Option (Except LaunchError α)}
    (ht : Transcript ((sleep d : Stage Unit) >>= f).run es o) :
    ∃ rest, Transcript (f ()).run rest o ∧ es = slept d :: rest := by
  obtain ⟨_, rest, hrest, rfl⟩ := transcript_run_request_bind_iff.mp ht
  exact ⟨rest, hrest, rfl⟩

end Deadlines

lemma transcript_resolve {plan : LaunchPlan} {deadline : Deadline} {rounds : Nat}
    {es : List Event} {o : Option (Except LaunchError SessionTarget)}
    (ht : Transcript (resolve plan deadline rounds).run es o) :
    Search plan deadline rounds es o := by
  induction rounds generalizing es o with
  | zero =>
      obtain ⟨rfl, rfl⟩ := transcript_unfinished_iff.mp ht
      exact .outOfRounds
  | succ rounds ih =>
      obtain ⟨t, rest, rfl, ⟨hlate, hthrow⟩ | ⟨hearly, hrest⟩⟩ := transcript_overrun_bind ht
      · obtain ⟨rfl, rfl⟩ := transcript_run_throw_iff.mp hthrow
        exact .late hlate
      · rcases transcript_run_bind_iff.mp hrest with
          ⟨pass, found, last, hpass, hlast, rfl⟩ | ⟨e, hpass, rfl⟩ | ⟨hpass, rfl⟩
        · cases found with
          | some target =>
              obtain ⟨rfl, rfl⟩ := transcript_run_pure_iff.mp hlast
              rw [List.append_nil]
              exact .opened hearly hpass
          | none =>
              obtain ⟨_, hagain, rfl⟩ := transcript_sleep_bind hlast
              exact .again hearly hpass (ih hagain)
        · exact .failed hearly hpass
        · obtain ⟨_, -, ho⟩ := transcript_resolutionPass hpass
          simp at ho

/-! ## From a session to a ready one -/

/-- Whether a reply to a ping says that the service is there. -/
def answersYes : Option (Except TransportError Bool) → Bool
  | some (.ok reachable) => reachable
  | _ => false

/-- One probe: a look at the clock, and a ping for the time that is left. -/
def probing (deadline : Deadline) (t : Nat) (reply : Option (Except TransportError Bool)) :
    List Event :=
  [looked t, pinged (deadline.limit - (t - deadline.start)) reply]

/-- The pause in which a service that has just answered becomes stable. -/
def stabilizing (plan : LaunchPlan) : List Event :=
  [said ("Management service responded. Waiting for it to stabilize on " ++ plan.displayName),
    slept plan.bootDelay,
    said ("Management service should now be ok on " ++ plan.displayName)]

/-- The ways of one probing pass, and what each finds out. -/
inductive ProbingPass (plan : LaunchPlan) (deadline : Deadline) (stabilized : Bool) :
    List Event → Readiness → Prop where
  | silent {t : Nat} {reply : Option (Except TransportError Bool)}
      (hreply : answersYes reply = false) :
      ProbingPass plan deadline stabilized
        (probing deadline t reply
          ++ [said ("Waiting for the management service to come up. Sleeping "
            ++ secondsText plan.retryInterval ++ ".")])
        (.waiting stabilized)
  | answers {t : Nat} {reply : Option (Except TransportError Bool)}
      (hreply : answersYes reply = true)
      (hstable : (!stabilized || plan.stopOnTerminate) = false) :
      ProbingPass plan deadline stabilized (probing deadline t reply) .ready
  | answersAgain {t t' : Nat} {reply reply' : Option (Except TransportError Bool)}
      (hreply : answersYes reply = true)
      (hunstable : (!stabilized || plan.stopOnTerminate) = true)
      (hreply' : answersYes reply' = true) :
      ProbingPass plan deadline stabilized
        (probing deadline t reply ++ (stabilizing plan ++ probing deadline t' reply')) .ready
  | relapses {t t' : Nat} {reply reply' : Option (Except TransportError Bool)}
      (hreply : answersYes reply = true)
      (hunstable : (!stabilized || plan.stopOnTerminate) = true)
      (hreply' : answersYes reply' = false) :
      ProbingPass plan deadline stabilized
        (probing deadline t reply ++ (stabilizing plan ++ (probing deadline t' reply'
          ++ [said ("Management service not yet up. Sleeping " ++ secondsText plan.retryInterval
            ++ ".")])))
        (.waiting true)

lemma transcript_probe {deadline : Deadline} {es : List Event} {o : Option Bool}
    (ht : Transcript (probe deadline) es o) :
    ∃ t reply, es = probing deadline t reply ∧ o = some (answersYes reply) := by
  obtain ⟨t, _, hping, rfl⟩ := transcript_ask_iff.mp ht
  obtain ⟨reply, _, hdone, rfl⟩ := transcript_request_bind_iff.mp hping
  refine ⟨t, reply, ?_⟩
  rcases reply with _ | _ | reachable
  all_goals
    obtain ⟨rfl, rfl⟩ := transcript_done_iff.mp hdone
    exact ⟨rfl, rfl⟩

/-- A probe, and what follows its answer. -/
lemma transcript_probe_bind {α : Type} {deadline : Deadline} {f : Bool → Activity α}
    {es : List Event} {o : Option α} (ht : Transcript (probe deadline >>= f) es o) :
    ∃ t reply rest, es = probing deadline t reply ++ rest
      ∧ Transcript (f (answersYes reply)) rest o := by
  rcases transcript_bind_iff.mp ht with ⟨_, _, rest, hprobe, hrest, rfl⟩ | ⟨hprobe, rfl⟩
  · obtain ⟨t, reply, rfl, ho⟩ := transcript_probe hprobe
    obtain rfl := Option.some.inj ho
    exact ⟨t, reply, rest, rfl, hrest⟩
  · obtain ⟨_, _, -, ho⟩ := transcript_probe hprobe
    simp at ho

lemma transcript_stabilize {plan : LaunchPlan} {deadline : Deadline} {es : List Event}
    {o : Option Readiness} (ht : Transcript (stabilize plan deadline) es o) :
    ∃ t reply,
      (answersYes reply = true ∧ es = stabilizing plan ++ probing deadline t reply
        ∧ o = some .ready)
      ∨ answersYes reply = false
        ∧ es = stabilizing plan ++ (probing deadline t reply
          ++ [said ("Management service not yet up. Sleeping " ++ secondsText plan.retryInterval
            ++ ".")])
        ∧ o = some (.waiting true) := by
  obtain ⟨_, hsleep, rfl⟩ := transcript_log_bind_iff.mp ht
  obtain ⟨_, _, hsay, rfl⟩ := transcript_request_bind_iff.mp hsleep
  obtain ⟨_, hprobe, rfl⟩ := transcript_log_bind_iff.mp hsay
  obtain ⟨t, reply, _, rfl, hbranch⟩ := transcript_probe_bind hprobe
  refine ⟨t, reply, ?_⟩
  cases hreply : answersYes reply with
  | true =>
      rw [hreply] at hbranch
      obtain ⟨rfl, rfl⟩ := transcript_done_iff.mp hbranch
      exact .inl ⟨rfl, by simp [stabilizing, slept], rfl⟩
  | false =>
      rw [hreply] at hbranch
      obtain ⟨_, hdone, rfl⟩ := transcript_log_bind_iff.mp hbranch
      obtain ⟨rfl, rfl⟩ := transcript_done_iff.mp hdone
      exact .inr ⟨rfl, by simp [stabilizing, slept], rfl⟩

lemma transcript_probingPass {plan : LaunchPlan} {deadline : Deadline} {stabilized : Bool}
    {es : List Event} {o : Option Readiness}
    (ht : Transcript (probingPass plan deadline stabilized) es o) :
    ∃ r, ProbingPass plan deadline stabilized es r ∧ o = some r := by
  obtain ⟨t, reply, _, rfl, hbranch⟩ := transcript_probe_bind ht
  cases hreply : answersYes reply with
  | false =>
      rw [hreply] at hbranch
      obtain ⟨_, hdone, rfl⟩ := transcript_log_bind_iff.mp hbranch
      obtain ⟨rfl, rfl⟩ := transcript_done_iff.mp hdone
      exact ⟨_, .silent hreply, rfl⟩
  | true =>
      rw [hreply, if_pos rfl] at hbranch
      cases hunstable : (!stabilized || plan.stopOnTerminate) with
      | false =>
          rw [hunstable] at hbranch
          obtain ⟨rfl, rfl⟩ := transcript_done_iff.mp hbranch
          exact ⟨_, by simpa using ProbingPass.answers hreply hunstable, rfl⟩
      | true =>
          rw [hunstable, if_pos rfl] at hbranch
          obtain ⟨t', reply', h⟩ := transcript_stabilize hbranch
          rcases h with ⟨hreply', rfl, rfl⟩ | ⟨hreply', rfl, rfl⟩
          · exact ⟨_, .answersAgain hreply hunstable hreply', rfl⟩
          · exact ⟨_, .relapses hreply hunstable hreply', rfl⟩

/-- The wait for a session to be ready, with some number of rounds: passes to be repeated, with a
pause after each, and how the wait ends.  The flag tells whether the service has had its pause to
become stable. -/
inductive Wait (plan : LaunchPlan) (deadline : Deadline) :
    Nat → Bool → List Event → Option (Except LaunchError Unit) → Prop where
  | outOfRounds {stabilized : Bool} : Wait plan deadline 0 stabilized [] none
  | late {rounds : Nat} {stabilized : Bool} {t : Nat}
      (ht : deadline.limit < t - deadline.start) :
      Wait plan deadline (rounds + 1) stabilized [looked t, called .closeSession ()]
        (some (.error (timedOut (t - deadline.start))))
  | ready {rounds : Nat} {stabilized : Bool} {t : Nat}
      (ht : t - deadline.start ≤ deadline.limit) {es : List Event}
      (hpass : ProbingPass plan deadline stabilized es .ready) :
      Wait plan deadline (rounds + 1) stabilized
        (looked t :: es ++ [said ("Connected to " ++ plan.displayName ++ ".")])
        (some (.ok ()))
  | again {rounds : Nat} {stabilized stabilized' : Bool} {t : Nat}
      (ht : t - deadline.start ≤ deadline.limit) {es rest : List Event}
      {o : Option (Except LaunchError Unit)}
      (hpass : ProbingPass plan deadline stabilized es (.waiting stabilized'))
      (h : Wait plan deadline rounds stabilized' rest o) :
      Wait plan deadline (rounds + 1) stabilized
        (looked t :: es ++ slept plan.retryInterval :: rest) o

lemma transcript_awaitReady {plan : LaunchPlan} {deadline : Deadline} {rounds : Nat}
    {stabilized : Bool} {es : List Event} {o : Option (Except LaunchError Unit)}
    (ht : Transcript (awaitReady plan deadline rounds stabilized).run es o) :
    Wait plan deadline rounds stabilized es o := by
  induction rounds generalizing stabilized es o with
  | zero =>
      obtain ⟨rfl, rfl⟩ := transcript_unfinished_iff.mp ht
      exact .outOfRounds
  | succ rounds ih =>
      obtain ⟨t, rest, rfl, ⟨hlate, hclose⟩ | ⟨hearly, hrest⟩⟩ := transcript_overrun_bind ht
      · obtain ⟨_, _, hthrow, rfl⟩ := transcript_stage_call_bind_iff.mp hclose
        obtain ⟨rfl, rfl⟩ := transcript_run_throw_iff.mp hthrow
        exact .late hlate
      · rcases transcript_run_lift_bind_iff.mp hrest with
          ⟨_, found, _, hprobing, hlast, rfl⟩ | ⟨hprobing, rfl⟩
        · obtain ⟨_, hpass, ho⟩ := transcript_probingPass hprobing
          obtain rfl := Option.some.inj ho
          cases found with
          | ready =>
              obtain ⟨rfl, rfl⟩ := transcript_stage_log_iff.mp hlast
              exact .ready hearly hpass
          | waiting stabilized' =>
              obtain ⟨_, hagain, rfl⟩ := transcript_sleep_bind hlast
              exact .again hearly hpass (ih hagain)
        · obtain ⟨_, -, ho⟩ := transcript_probingPass hprobing
          simp at ho

/-! ## The whole wait -/

/-- How every wait begins: with looks at the clock and the date. -/
def opening (plan : LaunchPlan) (start : Nat) (now : Timestamp) : List Event :=
  [looked start, said (plan.displayName ++ " booted at " ++ plan.createdAt.display), dated now]

/-- The whole wait: a search that finds no session, or one that does and the wait for it to be
ready. -/
inductive Establishment (plan : LaunchPlan) (rounds : Nat) :
    List Event → Option (Except LaunchError SessionTarget) → Prop where
  | unresolved {start : Nat} {now : Timestamp} {es : List Event}
      {o : Option (Except LaunchError SessionTarget)} (ho : ∀ target, o ≠ some (.ok target))
      (h : Search plan ⟨start, plan.deadline⟩ rounds es o) :
      Establishment plan rounds (opening plan start now ++ es) o
  | resolved {start : Nat} {now : Timestamp} {es es' : List Event} {target : SessionTarget}
      {o : Option (Except LaunchError Unit)}
      (h : Search plan ⟨start, plan.deadline⟩ rounds es (some (.ok target)))
      (h' : Wait plan ⟨start, plan.deadline⟩ rounds (plan.alreadyBooted now) es' o) :
      Establishment plan rounds (opening plan start now ++ es ++ es')
        (o.map (Except.map fun _ => target))

/-- **The shape of every wait.** -/
theorem transcript_establish {plan : LaunchPlan} {rounds : Nat} {es : List Event}
    {o : Option (Except LaunchError SessionTarget)}
    (ht : Transcript (establish plan rounds).run es o) : Establishment plan rounds es o := by
  obtain ⟨start, _, hsay, rfl⟩ := transcript_run_request_bind_iff.mp ht
  obtain ⟨_, htoday, rfl⟩ := transcript_stage_log_bind_iff.mp hsay
  obtain ⟨now, _, hrest, rfl⟩ := transcript_run_request_bind_iff.mp htoday
  rcases transcript_run_bind_iff.mp hrest with
    ⟨_, target, _, hsearch, hmore, rfl⟩ | ⟨e, hsearch, rfl⟩ | ⟨hsearch, rfl⟩
  · have hfound := transcript_resolve hsearch
    rcases transcript_run_bind_iff.mp hmore with
      ⟨_, _, _, hwait, hdone, rfl⟩ | ⟨e, hwait, rfl⟩ | ⟨hwait, rfl⟩
    · obtain ⟨rfl, rfl⟩ := transcript_run_pure_iff.mp hdone
      rw [List.append_nil]
      exact .resolved hfound (transcript_awaitReady hwait)
    · exact .resolved hfound (transcript_awaitReady hwait)
    · exact .resolved hfound (transcript_awaitReady hwait)
  · exact .unresolved (by simp) (transcript_resolve hsearch)
  · exact .unresolved (by simp) (transcript_resolve hsearch)

/-! ## What a wait asks for -/

/-- Requests that are made while an attempt waits for the management service. -/
def Request.Waits : Request → Prop
  | .call (.describe _) => True
  | .call (.encryptedPassword _) => True
  | .call (.decrypt _) => True
  | .call (.openSession _) => True
  | .call .closeSession => True
  | .call _ => False
  | _ => True

/-- All of some events belong to a wait. -/
def WaitsOnly (es : List Event) : Prop := ∀ x ∈ es, x.request.Waits

section Requests

variable {plan : LaunchPlan} {deadline : Deadline} {rounds : Nat} {es : List Event}

@[simp] lemma waitsOnly_nil : WaitsOnly [] := by simp [WaitsOnly]

@[simp] lemma waitsOnly_cons {x : Event} :
    WaitsOnly (x :: es) ↔ x.request.Waits ∧ WaitsOnly es := by
  simp [WaitsOnly]

@[simp] lemma waitsOnly_append {es' : List Event} :
    WaitsOnly (es ++ es') ↔ WaitsOnly es ∧ WaitsOnly es' :=
  List.forall_mem_append

lemma waitsOnly_findsCredentials {r : Except LaunchError Resolution}
    (h : FindsCredentials plan es r) : WaitsOnly es := by
  have hwarning : WaitsOnly (identityWarning plan) := by
    unfold identityWarning
    split <;> simp [said, Request.Waits]
  cases h with
  | supplied | notSupplied => simp
  | unavailable | notGenerated | undecryptable => simp [called, said, Request.Waits]
  | derived => simp [called, Request.Waits, hwarning]

lemma waitsOnly_resolutionPass {r : Except LaunchError (Option SessionTarget)}
    (h : ResolutionPass plan es r) : WaitsOnly es := by
  cases h with
  | undescribed | unassigned => simp [called, said, Request.Waits]
  | pending _ hfinds | failed _ hfinds | opened _ hfinds =>
      simp [called, said, Request.Waits, waitsOnly_findsCredentials hfinds]

lemma waitsOnly_search {o : Option (Except LaunchError SessionTarget)}
    (h : Search plan deadline rounds es o) : WaitsOnly es := by
  have hwaits : ∀ {es r}, Transcript (resolutionPass plan).run es (some r) → WaitsOnly es :=
    fun ht => waitsOnly_resolutionPass (.of_transcript ht)
  induction h with
  | outOfRounds | late => simp [looked, Request.Waits]
  | opened _ hpass | failed _ hpass => simp [looked, Request.Waits, hwaits hpass]
  | again _ hpass _ ih => simp [looked, slept, Request.Waits, hwaits hpass, ih]

lemma waitsOnly_probingPass {stabilized : Bool} {r : Readiness}
    (h : ProbingPass plan deadline stabilized es r) : WaitsOnly es := by
  cases h <;> simp [probing, stabilizing, looked, pinged, slept, said, Request.Waits]

lemma waitsOnly_wait {stabilized : Bool} {o : Option (Except LaunchError Unit)}
    (h : Wait plan deadline rounds stabilized es o) : WaitsOnly es := by
  induction h with
  | outOfRounds | late => simp [looked, called, Request.Waits]
  | ready _ hpass => simp [looked, said, Request.Waits, waitsOnly_probingPass hpass]
  | again _ hpass _ ih =>
      simp [looked, slept, Request.Waits, waitsOnly_probingPass hpass, ih]

/-- **A wait leaves the remote host alone**, apart from asking whether it is there. -/
theorem waitsOnly_establishment {o : Option (Except LaunchError SessionTarget)}
    (h : Establishment plan rounds es o) : WaitsOnly es := by
  cases h with
  | unresolved _ hsearch =>
      simp [opening, looked, said, dated, Request.Waits, waitsOnly_search hsearch]
  | resolved hsearch hwait =>
      simp [opening, looked, said, dated, Request.Waits, waitsOnly_search hsearch,
        waitsOnly_wait hwait]

end Requests

end AgentLaunch.Attempt
