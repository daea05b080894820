import AgentLaunch.Proofs.Attempt.Deadline

/-!
# The opening of the session

What a resolution pass comes to can be told from the replies that it gets.  A pass is *transient*
if the instance or its password is not there yet, *fatal* if the password will never be there, and
*ready* otherwise.  A search repeats transient passes, with one pause after each, and the first
other pass ends it; what comes after a ready pass keeps the session that it has opened.

* `responses`, `verdict` — what a pass comes to, from its replies alone.
* `Tries` — a pass with its verdict: it asks for the address first, and then the cloud only.
* `SearchEnds` — the ways in which the passes come to an end.
* `Search.passByPass` — every search is a number of transient passes and such an end.
* **`establish_opensFirstReady`** — whatever the surroundings do, a wait opens a session in its
  first ready pass, at that pass's address, and in no other.

A verdict is a function of the replies in a pass, and not of the pass as a program: it says what
should be made of an address, of reported material and of a decrypted password.  That the passes of
the code come to these verdicts is shown once for each of the three results (`tries_of_none`,
`tries_of_error`, `tries_of_some`).  Then a search is cut into its passes by induction, and the end
of the search has one constructor for each way to end.

The part about time is separate.  If all calls are answered at once, then no request of a pass moves
the clock, so only the pauses do, and the opening happens as many pauses after the beginning as
there were transient passes.  `establish_opensFirstReady_lateAddress` has one.
-/

namespace AgentLaunch.Attempt

open Dialogue

/-! ## Verdicts -/

/-- The address that a plan can connect to: one of its kind that is not blank, and is not the
address of those who have none. -/
def assignedAddress? (plan : LaunchPlan) (d : InstanceDescription) : Option String :=
  ((d.reported plan.connectionStrategy).bind Text.trimmed?).filter
    (· ≠ InstanceDescription.unassigned)

/-- What the cloud has replied in a pass, as far as it was asked. -/
structure Responses where
  description : Option (Except CloudError InstanceDescription)
  material : Option (Except CloudError (Option String))
  password : Option (Except CloudError Secret)

def description? : Event → Option (Except CloudError InstanceDescription)
  | ⟨.call (.describe _), reply⟩ => some reply
  | _ => none

def material? : Event → Option (Except CloudError (Option String))
  | ⟨.call (.encryptedPassword _), reply⟩ => some reply
  | _ => none

def password? : Event → Option (Except CloudError Secret)
  | ⟨.call (.decrypt _), reply⟩ => some reply
  | _ => none

def responses (es : List Event) : Responses where
  description := es.findSome? description?
  material := es.findSome? material?
  password := es.findSome? password?

/-- What a resolution pass comes to. -/
inductive Verdict where
  /-- It has to be repeated. -/
  | transient
  | fatal (e : LaunchError)
  /-- There is all that a session needs. -/
  | ready (target : SessionTarget)

/-- The verdict on a pass that has found an address. -/
def verdictAt (plan : LaunchPlan) (host : String) (r : Responses) : Verdict :=
  match plan.security with
  | .suppliedPassword =>
    match plan.adminPassword with
    | some password => .ready (targetOf plan host ⟨plan.remoteAdmin, password⟩)
    | none => .fatal (.config "supplied_password mode requires admin_password to be set")
  | .derivedPassword =>
    match r.material with
    | some (.ok reported) =>
      match reported.bind Text.trimmed?, r.password with
      | some _, some (.ok password) => .ready (targetOf plan host ⟨canonicalAdmin, password⟩)
      | some _, some (.error e) => .fatal (.cloud e)
      | _, _ => .transient
    | _ => .transient

/-- The verdict on a pass with some responses. -/
def verdict (plan : LaunchPlan) (r : Responses) : Verdict :=
  match r.description with
  | some (.ok d) =>
    match assignedAddress? plan d with
    | some host => verdictAt plan host r
    | none => .transient
  | _ => .transient

/-! ## Passes with a verdict -/

/-- Requests of a pass that has asked for the address: for the rest, it asks the cloud about the
password. -/
def Request.SeeksPassword : Request → Prop
  | .log _ => True
  | .call (.encryptedPassword _) => True
  | .call (.decrypt _) => True
  | _ => False

/-- A resolution pass: it asks for the address, whatever earlier passes have been told, and its
replies have some verdict.  It does not use the transport, nor does it pause. -/
structure Tries (plan : LaunchPlan) (es : List Event) (v : Verdict) : Prop where
  asksAddress : ∃ reply rest, es = called (.describe plan.instanceId) reply :: rest
    ∧ ∀ x ∈ rest, x.request.SeeksPassword
  verdict_eq : verdict plan (responses es) = v

section Passes

variable {plan : LaunchPlan} {es : List Event}

lemma assignedAddress?_of_unassigned {d : InstanceDescription}
    (h : d.address plan.connectionStrategy = InstanceDescription.unassigned) :
    assignedAddress? plan d = none := by
  unfold InstanceDescription.address at h
  unfold assignedAddress?
  cases hreported : (d.reported plan.connectionStrategy).bind Text.trimmed? with
  | none => rfl
  | some host =>
      rw [hreported, Option.getD_some] at h
      simp [h]

lemma assignedAddress?_of_ne {d : InstanceDescription}
    (h : d.address plan.connectionStrategy ≠ InstanceDescription.unassigned) :
    assignedAddress? plan d = some (d.address plan.connectionStrategy) := by
  unfold InstanceDescription.address at h ⊢
  unfold assignedAddress?
  cases hreported : (d.reported plan.connectionStrategy).bind Text.trimmed? with
  | none => simp [hreported] at h
  | some host =>
      rw [hreported, Option.getD_some] at h
      simp [h]

/-- The verdict that belongs to a search for credentials. -/
def verdictOf (plan : LaunchPlan) (host : String) : Except LaunchError Resolution → Verdict
  | .ok (.ready credentials) => .ready (targetOf plan host credentials)
  | .ok .pending => .transient
  | .error e => .fatal e

/-- The verdict is settled by the time the credentials are, whatever comes after them. -/
lemma FindsCredentials.verdictAt {result : Except LaunchError Resolution}
    (h : FindsCredentials plan es result) (host : String) {r : Responses} {rest : List Event}
    (hmaterial : r.material = (es ++ rest).findSome? material?)
    (hpassword : r.password = (es ++ rest).findSome? password?) :
    verdictAt plan host r = verdictOf plan host result := by
  cases h with
  | supplied hmode hsupplied => simp [Attempt.verdictAt, hmode, hsupplied, verdictOf]
  | notSupplied hmode hsupplied => simp [Attempt.verdictAt, hmode, hsupplied, verdictOf]
  | unavailable hmode e =>
      replace hmaterial : r.material = some (.error e) := hmaterial
      simp [Attempt.verdictAt, hmode, hmaterial, verdictOf]
  | @notGenerated hmode reported hreported =>
      replace hmaterial : r.material = some (.ok reported) := hmaterial
      simp [Attempt.verdictAt, hmode, hmaterial, hreported, verdictOf]
  | @undecryptable hmode reported material hreported e =>
      replace hmaterial : r.material = some (.ok reported) := hmaterial
      replace hpassword : r.password = some (.error e) := hpassword
      simp [Attempt.verdictAt, hmode, hmaterial, hreported, hpassword, verdictOf]
  | @derived hmode reported material hreported password =>
      replace hmaterial : r.material = some (.ok reported) := hmaterial
      replace hpassword : r.password = some (.ok password) := hpassword
      simp [Attempt.verdictAt, hmode, hmaterial, hreported, hpassword, verdictOf]

lemma FindsCredentials.seeksPassword {r : Except LaunchError Resolution}
    (h : FindsCredentials plan es r) : ∀ x ∈ es, x.request.SeeksPassword := by
  have hwarning : ∀ x ∈ identityWarning plan, x.request.SeeksPassword := by
    unfold identityWarning
    split <;> simp [said, Request.SeeksPassword]
  cases h with
  | supplied | notSupplied => simp
  | unavailable | notGenerated | undecryptable => simp [called, said, Request.SeeksPassword]
  | derived => simpa [called, Request.SeeksPassword] using hwarning

/-- A pass that finds credentials, or not, at an address. -/
lemma FindsCredentials.tries {r : Except LaunchError Resolution} (h : FindsCredentials plan es r)
    {d : InstanceDescription}
    (haddress : d.address plan.connectionStrategy ≠ InstanceDescription.unassigned)
    (lines : List String) :
    Tries plan (called (.describe plan.instanceId) (.ok d) :: (es ++ lines.map said))
      (verdictOf plan (d.address plan.connectionStrategy) r) where
  asksAddress := by
    refine ⟨_, _, rfl, List.forall_mem_append.mpr ⟨h.seeksPassword, ?_⟩⟩
    simp [said, Request.SeeksPassword]
  verdict_eq := by
    have hdescription : (responses (called (.describe plan.instanceId) (.ok d)
        :: (es ++ lines.map said))).description = some (.ok d) := rfl
    rw [verdict, hdescription]
    simp only [assignedAddress?_of_ne haddress]
    exact h.verdictAt _ rfl rfl

lemma ResolutionPass.tries_of_none (h : ResolutionPass plan es (.ok none)) :
    Tries plan es .transient := by
  cases h with
  | undescribed e => exact ⟨⟨_, _, rfl, by simp [said, Request.SeeksPassword]⟩, rfl⟩
  | @unassigned d haddress =>
      refine ⟨⟨_, _, rfl, by simp [said, Request.SeeksPassword]⟩, ?_⟩
      have hdescription : ∀ rest, (responses (called (.describe plan.instanceId) (.ok d)
        :: rest)).description = some (.ok d) := fun _ => rfl
      rw [verdict, hdescription]
      simp only [assignedAddress?_of_unassigned haddress]
  | pending haddress hfinds => simpa [verdictOf] using hfinds.tries haddress []

lemma ResolutionPass.tries_of_error {e : LaunchError} (h : ResolutionPass plan es (.error e)) :
    Tries plan es (.fatal e) := by
  cases h with
  | failed haddress hfinds => simpa [verdictOf] using hfinds.tries haddress []

lemma ResolutionPass.tries_of_some {target : SessionTarget}
    (h : ResolutionPass plan es (.ok (some target))) :
    ∃ front, es = front ++ [called (.openSession target) ()]
      ∧ Tries plan front (.ready target) := by
  cases h with
  | @opened d haddress es credentials hfinds =>
      refine ⟨_, ?_, hfinds.tries haddress ["Connecting to ("
        ++ d.address plan.connectionStrategy ++ ") as " ++ credentials.username]⟩
      simp

end Passes

/-! ## Pass by pass -/

/-- A pass that is repeated: a look at the clock before it, and one pause after it. -/
def repeated (plan : LaunchPlan) (pass : Nat × List Event) : List Event :=
  looked pass.1 :: pass.2 ++ [slept plan.retryInterval]

/-- How the passes of a search come to an end. -/
inductive SearchEnds (plan : LaunchPlan) (start : Nat) :
    List Event → Option (Except LaunchError SessionTarget) → Prop where
  | outOfRounds : SearchEnds plan start [] none
  | late {t : Nat} (ht : plan.deadline < t - start) :
      SearchEnds plan start [looked t] (some (.error (timedOut (t - start))))
  | fatal {t : Nat} {es : List Event} {e : LaunchError} (ht : t - start ≤ plan.deadline)
      (h : Tries plan es (.fatal e)) : SearchEnds plan start (looked t :: es) (some (.error e))
  | ready {t : Nat} {es : List Event} {target : SessionTarget} (ht : t - start ≤ plan.deadline)
      (h : Tries plan es (.ready target)) :
      SearchEnds plan start (looked t :: es ++ [called (.openSession target) ()])
        (some (.ok target))

/-- **A search, pass by pass.** -/
lemma Search.passByPass {plan : LaunchPlan} {start rounds : Nat} {es : List Event}
    {o : Option (Except LaunchError SessionTarget)}
    (h : Search plan ⟨start, plan.deadline⟩ rounds es o) :
    ∃ (passes : List (Nat × List Event)) (last : List Event),
      es = passes.flatMap (repeated plan) ++ last
      ∧ (∀ pass ∈ passes, pass.1 - start ≤ plan.deadline ∧ Tries plan pass.2 .transient)
      ∧ SearchEnds plan start last o ∧ (last = [] → passes.length = rounds) := by
  generalize hdeadline : (⟨start, plan.deadline⟩ : Deadline) = deadline at h
  induction h with
  | outOfRounds => exact ⟨[], [], rfl, by simp, .outOfRounds, by simp⟩
  | late ht =>
      subst hdeadline
      exact ⟨[], _, rfl, by simp, .late ht, by simp⟩
  | opened ht hpass =>
      subst hdeadline
      obtain ⟨front, rfl, htries⟩ := (ResolutionPass.of_transcript hpass).tries_of_some
      exact ⟨[], _, rfl, by simp, .ready ht htries, by simp⟩
  | failed ht hpass =>
      subst hdeadline
      exact ⟨[], _, rfl, by simp, .fatal ht (ResolutionPass.of_transcript hpass).tries_of_error,
        by simp⟩
  | @again rounds t ht es rest o hpass _ ih =>
      obtain ⟨passes, last, rfl, htransient, hends, hrounds⟩ := ih
      subst hdeadline
      have htries := (ResolutionPass.of_transcript hpass).tries_of_none
      refine ⟨(t, es) :: passes, last, by simp [repeated], ?_, hends, fun hlast => ?_⟩
      · exact List.forall_mem_cons.mpr ⟨⟨ht, htries⟩, htransient⟩
      · rw [List.length_cons, hrounds hlast]

/-! ## With a session -/

/-- Requests that leave the session in its place, and the cloud alone. -/
def Request.KeepsSession : Request → Prop
  | .call .closeSession => True
  | .call _ => False
  | _ => True

section Kept

variable {plan : LaunchPlan} {deadline : Deadline} {stabilized : Bool} {es : List Event}

lemma ProbingPass.keepsSession {r : Readiness} (h : ProbingPass plan deadline stabilized es r) :
    ∀ x ∈ es, x.request.KeepsSession := by
  cases h <;> simp [probing, stabilizing, looked, pinged, slept, said, Request.KeepsSession]

lemma Wait.keepsSession {rounds : Nat} {o : Option (Except LaunchError Unit)}
    (h : Wait plan deadline rounds stabilized es o) : ∀ x ∈ es, x.request.KeepsSession := by
  induction h with
  | outOfRounds | late => simp [looked, called, Request.KeepsSession]
  | ready _ hpass =>
      have hkeeps := hpass.keepsSession
      simp only [List.forall_mem_append, List.forall_mem_cons]
      exact ⟨⟨trivial, hkeeps⟩, trivial, by simp⟩
  | again _ hpass _ ih =>
      have hkeeps := hpass.keepsSession
      simp only [List.forall_mem_append, List.forall_mem_cons]
      exact ⟨⟨trivial, hkeeps⟩, trivial, ih⟩

/-- A wait for a session to be ready fails because of the time only. -/
lemma Wait.result {rounds : Nat} {o : Option (Except LaunchError Unit)}
    (h : Wait plan deadline rounds stabilized es o) :
    o = none ∨ o = some (.ok ()) ∨ ∃ secs, o = some (.error (.timeout secs)) := by
  induction h with
  | outOfRounds => exact .inl rfl
  | late => exact .inr (.inr ⟨_, rfl⟩)
  | ready => exact .inr (.inl rfl)
  | again _ _ _ ih => exact ih

end Kept

/-! ## Surroundings without delays -/

variable {σ : Type}

/-- Everybody replies to a call at once. -/
def Surroundings.AnswersAtOnce (world : Surroundings σ) : Prop :=
  ∀ memory time c, (world.answer memory time c).2.1 = 0

/-- No time passes by itself in a request like this. -/
def Request.Instant : Request → Prop
  | .sleep _ => False
  | .ping _ => False
  | _ => True

section AtOnce

variable {world : Surroundings σ} {plan : LaunchPlan} {s : Scene σ} {es : List Event}

lemma clock_stateAfter_of_instant (hworld : world.AnswersAtOnce)
    (h : ∀ x ∈ es, x.request.Instant) : (stateAfter world.respond s es).clock = s.clock := by
  induction es generalizing s with
  | nil => rfl
  | cons x es ih =>
      rw [List.forall_mem_cons] at h
      have hfirst : (world.respond s x.request).2.clock = s.clock := by
        rcases x with ⟨_ | _ | _ | _ | _ | c, reply⟩
        case call => exact congrArg (s.clock + ·) (hworld s.memory s.clock c)
        case sleep => exact h.1.elim
        case ping => exact h.1.elim
        all_goals rfl
      exact (ih h.2).trans hfirst

lemma Tries.instant {v : Verdict} (h : Tries plan es v) : ∀ x ∈ es, x.request.Instant := by
  obtain ⟨reply, rest, rfl, hrest⟩ := h.asksAddress
  refine List.forall_mem_cons.mpr ⟨trivial, fun x hx => ?_⟩
  have hseeks := hrest x hx
  rcases x with ⟨_ | _ | _ | _ | _ | _, _⟩
  case sleep => exact hseeks
  case ping => exact hseeks
  all_goals trivial

/-- Only the pauses of transient passes take time. -/
lemma clock_repeated (hworld : world.AnswersAtOnce) {passes : List (Nat × List Event)}
    (h : ∀ pass ∈ passes, Tries plan pass.2 .transient) :
    (stateAfter world.respond s (passes.flatMap (repeated plan))).clock
      = s.clock + passes.length * plan.retryInterval := by
  induction passes generalizing s with
  | nil => simp [stateAfter]
  | cons pass passes ih =>
      rw [List.forall_mem_cons] at h
      have htry : (stateAfter world.respond s (looked pass.1 :: pass.2)).clock = s.clock :=
        clock_stateAfter_of_instant hworld (List.forall_mem_cons.mpr ⟨trivial, h.1.instant⟩)
      have hpause : (stateAfter world.respond s (repeated plan pass)).clock
          = s.clock + plan.retryInterval := by
        rw [repeated, stateAfter_append]
        exact congrArg (· + plan.retryInterval) htry
      rw [List.flatMap_cons, stateAfter_append, ih h.2, hpause, List.length_cons, Nat.succ_mul]
      omega

/-! ### The moment of the opening -/

lemma event_mem_of_mem_exchangesFrom {x : Exchange signature (Scene σ)}
    (h : x ∈ exchangesFrom world.respond s es) : x.event ∈ es := by
  rw [← exchangesFrom_map_event world.respond s es]
  exact List.mem_map_of_mem h

lemma Tries.ne_openSession {v : Verdict} (h : Tries plan es v) (target : SessionTarget) :
    ∀ x ∈ es, x.request ≠ .call (.openSession target) := by
  obtain ⟨reply, rest, rfl, hrest⟩ := h.asksAddress
  refine List.forall_mem_cons.mpr ⟨by simp [called], fun x hx hopens => ?_⟩
  have hseeks := hrest x hx
  rw [hopens] at hseeks
  exact hseeks

/-- Neither does the look at the clock before a pass open a session. -/
lemma Tries.looked_ne_openSession {v : Verdict} (h : Tries plan es v) (t : Nat)
    (target : SessionTarget) :
    ∀ x ∈ looked t :: es, x.request ≠ .call (.openSession target) := by
  rw [List.forall_mem_cons]
  exact ⟨by simp [looked], h.ne_openSession target⟩

lemma Request.KeepsSession.ne_openSession {r : Request} (h : r.KeepsSession)
    (target : SessionTarget) : r ≠ .call (.openSession target) := by
  rintro rfl
  exact h

lemma repeated_ne_openSession {pass : Nat × List Event} (h : Tries plan pass.2 .transient)
    (target : SessionTarget) :
    ∀ x ∈ repeated plan pass, x.request ≠ .call (.openSession target) := by
  rw [repeated, List.forall_mem_append]
  exact ⟨h.looked_ne_openSession pass.1 target, by simp [slept]⟩

/-- An exchange has the request of one of the events. -/
lemma request_ne_of_forall_mem {x : Exchange signature (Scene σ)} {r : Request}
    (h : ∀ y ∈ es, y.request ≠ r) (hx : x ∈ exchangesFrom world.respond s es) :
    x.request ≠ r :=
  h x.event (event_mem_of_mem_exchangesFrom hx)

/-- The end of a search begins with a look at the clock. -/
lemma SearchEnds.clock_eq {start : Nat} {last rest : List Event}
    {found : Option (Except LaunchError SessionTarget)} (h : SearchEnds plan start last found)
    (hanswered : Answered world.respond s (last ++ rest)) :
    ∀ x ∈ last.head?, x = looked s.clock := by
  cases h with
  | outOfRounds => simp
  | late | fatal | ready =>
      obtain ⟨rfl, -⟩ := answered_looked_cons_iff.mp hanswered
      simp

/-- If all calls are answered at once, the session is opened at the time of that look. -/
lemma SearchEnds.openSession_clock {start : Nat} {last rest : List Event}
    {found : Option (Except LaunchError SessionTarget)} (h : SearchEnds plan start last found)
    (hworld : world.AnswersAtOnce) (hrest : ∀ x ∈ rest, x.request.KeepsSession)
    {x : Exchange signature (Scene σ)} {target : SessionTarget}
    (hx : x ∈ exchangesFrom world.respond s (last ++ rest))
    (hopens : x.request = .call (.openSession target)) : x.before.clock = s.clock := by
  rw [exchangesFrom_append] at hx
  rcases List.mem_append.mp hx with hlast | hlater
  · cases h with
    | outOfRounds => simp [exchangesFrom] at hlast
    | late => exact absurd hopens (request_ne_of_forall_mem (by simp [looked]) hlast)
    | @fatal t _ _ _ htries =>
        have hother := htries.looked_ne_openSession t target
        exact absurd hopens (request_ne_of_forall_mem hother hlast)
    | @ready t es target' _ htries =>
        rw [exchangesFrom_append] at hlast
        rcases List.mem_append.mp hlast with hpass | hopened
        · have hother := htries.looked_ne_openSession t target
          exact absurd hopens (request_ne_of_forall_mem hother hpass)
        · obtain rfl := List.mem_singleton.mp hopened
          exact clock_stateAfter_of_instant hworld
            (List.forall_mem_cons.mpr ⟨trivial, htries.instant⟩)
  · have hother : ∀ y ∈ rest, y.request ≠ .call (.openSession target) :=
      fun y hy => (hrest y hy).ne_openSession target
    exact absurd hopens (request_ne_of_forall_mem hother hlater)

end AtOnce

/-! ## The whole wait -/

/-- **A wait, pass by pass**: transient passes, an end of the search, and what comes after it. -/
structure PassByPass (world : Surroundings σ) (plan : LaunchPlan) (rounds : Nat) (scene : Scene σ)
    (run : Run signature (Scene σ) (Except LaunchError SessionTarget))
    (passes : List (Nat × List Event)) (last rest : List Event)
    (found : Option (Except LaunchError SessionTarget)) : Prop where
  events_eq : ∃ now, run.events
    = opening plan scene.clock now ++ (passes.flatMap (repeated plan) ++ (last ++ rest))
  transient : ∀ pass ∈ passes,
    pass.1 - scene.clock ≤ plan.deadline ∧ Tries plan pass.2 .transient
  ends : SearchEnds plan scene.clock last found
  /-- If no pass ends the search, there are as many as there may be. -/
  unfinished : last = [] → passes.length = rounds
  /-- A search that finds no session is the end of the wait. -/
  stops : (∀ target, found ≠ some (.ok target)) → rest = [] ∧ run.result = found
  /-- A session that is found is kept, and only the deadline can keep it from being the result. -/
  keeps : ∀ target, found = some (.ok target) →
    (∀ x ∈ rest, x.request.KeepsSession)
      ∧ (run.result = none ∨ run.result = some (.ok target)
        ∨ ∃ secs, run.result = some (.error (.timeout secs)))
  /-- If all calls are answered at once, only the pauses take time. -/
  atOnce : world.AnswersAtOnce →
    (∀ x ∈ last.head?, x = looked (scene.clock + passes.length * plan.retryInterval))
      ∧ ∀ x ∈ run.exchanges, ∀ target, x.request = .call (.openSession target) →
        x.before.clock = scene.clock + passes.length * plan.retryInterval

section Establishment

variable {world : Surroundings σ} {plan : LaunchPlan} {rounds : Nat} {scene : Scene σ}

/-- The part of `PassByPass` about the time. -/
lemma SearchEnds.atOnce {now : Timestamp} {passes : List (Nat × List Event)}
    {last rest : List Event} {found : Option (Except LaunchError SessionTarget)}
    (h : SearchEnds plan scene.clock last found) (hworld : world.AnswersAtOnce)
    (hpasses : ∀ pass ∈ passes, Tries plan pass.2 .transient)
    (hrest : ∀ x ∈ rest, x.request.KeepsSession)
    (hanswered : Answered world.respond scene
      (opening plan scene.clock now ++ (passes.flatMap (repeated plan) ++ (last ++ rest)))) :
    (∀ x ∈ last.head?, x = looked (scene.clock + passes.length * plan.retryInterval))
      ∧ ∀ x ∈ exchangesFrom world.respond scene
          (opening plan scene.clock now ++ (passes.flatMap (repeated plan) ++ (last ++ rest))),
        ∀ target, x.request = .call (.openSession target) →
          x.before.clock = scene.clock + passes.length * plan.retryInterval := by
  have hsearched := (answered_opening_append hanswered).2
  have hended := ((answered_append_iff ..).mp hsearched).2
  have hclock : (stateAfter world.respond scene (passes.flatMap (repeated plan))).clock
      = scene.clock + passes.length * plan.retryInterval := clock_repeated hworld hpasses
  refine ⟨fun x hx => ?_, fun x hx target hopens => ?_⟩
  · rw [← hclock]
    exact h.clock_eq hended x hx
  · rw [exchangesFrom_append, exchangesFrom_append] at hx
    rcases List.mem_append.mp hx with hopening | hx
    · have hother : ∀ y ∈ opening plan scene.clock now, y.request ≠ .call (.openSession target) :=
        by simp [opening, looked, said, dated]
      exact absurd hopens (request_ne_of_forall_mem hother hopening)
    · rcases List.mem_append.mp hx with hpass | hlast
      · have hother : ∀ y ∈ passes.flatMap (repeated plan),
            y.request ≠ .call (.openSession target) := by
          intro y hy
          obtain ⟨pass, hmem, hrepeated⟩ := List.mem_flatMap.mp hy
          exact repeated_ne_openSession (hpasses pass hmem) target y hrepeated
        exact absurd hopens (request_ne_of_forall_mem hother hpass)
      · rw [← hclock]
        exact h.openSession_clock hworld hrest hlast hopens

lemma Establishment.passByPass {es : List Event}
    {o : Option (Except LaunchError SessionTarget)} (h : Establishment plan rounds es o)
    (hanswered : Answered world.respond scene es) :
    ∃ passes last rest found, PassByPass world plan rounds scene
      ⟨o, stateAfter world.respond scene es, exchangesFrom world.respond scene es⟩
      passes last rest found := by
  cases h with
  | @unresolved start now es o ho hsearch =>
      obtain ⟨rfl, -⟩ := answered_opening_append hanswered
      obtain ⟨passes, last, rfl, htransient, hends, hrounds⟩ := hsearch.passByPass
      rw [← List.append_nil last] at hanswered ⊢
      refine ⟨passes, last, [], o, ⟨now, ?_⟩, htransient, hends, hrounds, fun _ => ⟨rfl, rfl⟩, ?_,
        fun hworld => ?_⟩
      · exact exchangesFrom_map_event ..
      · exact fun target hfound => absurd hfound (ho target)
      · exact hends.atOnce hworld (fun pass hmem => (htransient pass hmem).2) (by simp) hanswered
  | @resolved start now es es' target o hsearch hwait =>
      rw [List.append_assoc] at hanswered ⊢
      obtain ⟨rfl, -⟩ := answered_opening_append hanswered
      obtain ⟨passes, last, rfl, htransient, hends, hrounds⟩ := hsearch.passByPass
      rw [List.append_assoc] at hanswered ⊢
      refine ⟨passes, last, es', some (.ok target), ⟨now, ?_⟩, htransient, hends, hrounds, ?_, ?_,
        fun hworld => ?_⟩
      · exact exchangesFrom_map_event ..
      · exact fun hnone => absurd rfl (hnone target)
      · rintro _ ⟨⟩
        refine ⟨hwait.keepsSession, ?_⟩
        rcases hwait.result with rfl | rfl | ⟨secs, rfl⟩
        · exact .inl rfl
        · exact .inr (.inl rfl)
        · exact .inr (.inr ⟨secs, rfl⟩)
      · exact hends.atOnce hworld (fun pass hmem => (htransient pass hmem).2) hwait.keepsSession
          hanswered

/-- What holds of every establishment with the replies of some surroundings holds of the run of a
wait in these surroundings. -/
lemma forall_run_establish
    {P : Run signature (Scene σ) (Except LaunchError SessionTarget) → Prop}
    (h : ∀ es o, Establishment plan rounds es o → Answered world.respond scene es →
      P ⟨o, stateAfter world.respond scene es, exchangesFrom world.respond scene es⟩) :
    P (world.run (establish plan rounds).run scene) := by
  have htranscript := world.run_transcript (establish plan rounds).run scene
  have hanswered : Answered world.respond scene
      (world.run (establish plan rounds).run scene).events := (run_replay ..).2.2
  have hrun : world.run (establish plan rounds).run scene = _ :=
    run_of_transcript htranscript hanswered
  rw [hrun]
  exact h _ _ (transcript_establish htranscript) hanswered

/-- **The first ready pass opens the session.**  Whatever the surroundings do, a wait asks for the
address in every pass and repeats transient passes with one pause after each, without a session or
any use of the transport; its first fatal pass ends it with the error of that pass; and its first
ready pass opens the one session there is, at the address of that pass.  If all calls are answered
at once, that is as many pauses after the beginning as there were transient passes. -/
theorem establish_opensFirstReady (world : Surroundings σ) (plan : LaunchPlan) (rounds : Nat)
    (scene : Scene σ) :
    ∃ passes last rest found, PassByPass world plan rounds scene
      (world.run (establish plan rounds).run scene) passes last rest found := by
  refine forall_run_establish (P := fun run =>
    ∃ passes last rest found, PassByPass world plan rounds scene run passes last rest found) ?_
  intro es o h hanswered
  exact h.passByPass hanswered

end Establishment

/-- A cloud that reports an address from the second question on.  Nobody takes any time to reply. -/
def lateAddress : Surroundings Nat where
  answer
    | asked, _, .describe _ =>
      (.ok { publicIp := if asked = 0 then none else some "10.0.0.5" }, 0, asked + 1)
    | asked, _, c => ((Rehearsal.World.answer {} c).1, 0, asked)
  ping asked _ := (.answers 0 (.ok true), asked)
  today _ _ := ⟨0, 0, 0⟩

/-- The session is opened after one pause, in the second pass. -/
theorem establish_opensFirstReady_lateAddress :
    let run := lateAddress.run (establish impatientPlan 9).run ⟨0, 0⟩
    lateAddress.AnswersAtOnce ∧ ∃ passes last rest found,
      PassByPass lateAddress impatientPlan 9 ⟨0, 0⟩ run passes last rest found
        ∧ passes.length = 1 := by
  intro run
  have hworld : lateAddress.AnswersAtOnce := by
    intro asked time c
    cases c <;> rfl
  obtain ⟨passes, last, rest, found, h⟩ :=
    establish_opensFirstReady lateAddress impatientPlan 9 ⟨0, 0⟩
  refine ⟨hworld, passes, last, rest, found, h, ?_⟩
  -- Three exchanges of the opening come before it, four of the first pass and its pause, and three
  -- of the second pass.
  have hopening := List.mem_of_getElem? (l := run.exchanges) (i := 10) rfl
  have htime : 10000 = 0 + passes.length * 10000 := (h.atOnce hworld).2 _ hopening _ rfl
  omega

-- Two transient passes in a rehearsal: an error, and the address of those who have none.
example :
    let plan : LaunchPlan :=
      { instanceId := "i-1", createdAt := ⟨0, 0, 0⟩, security := .suppliedPassword,
        adminPassword := some ⟨"secret"⟩, launchTimeout := 60000 }
    let script : Rehearsal.Script :=
      { describe := [some ⟨.error (.api "throttled"), 0⟩,
          some ⟨.ok { publicIp := some "0.0.0.0" }, 0⟩] }
    ((Rehearsal.rehearse ⟨0, 0, 0⟩ (establish plan 9).run ⟨{ script }, 0⟩).exchanges.filterMap
      fun x => match x.request with
        | .call (.openSession target) => some (x.before.clock, target.host)
        | _ => none) = [(20000, "10.0.0.5")] := by
  rfl

end AgentLaunch.Attempt
