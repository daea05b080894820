import AgentLaunch.Proofs.Attempt.Launch

/-!
# What an attempt fails with

An attempt that is aborted says why, and the message tells the kinds of errors apart.  A message
about the configuration has only two sources: a password that is to be supplied and is not there,
and a channel that refuses the agent with such an error.

* `LaunchError.Encountered` — errors that are met on the way, and not made by a configuration.
* `HasCredentials` — a plan that has the password it is to supply.
* `WaitFailure` — what a wait for the management service fails with.
* `resolveCredentials_blameless_iff` — these plans are the ones whose credentials are looked for
  without a complaint about the configuration.
* **`LaunchCourse.aborted`** — an attempt with such a plan is aborted for other reasons.
* **`LaunchCourse.decryptsNothing`** — an attempt that has its password decrypts nothing.

Errors are classified in two steps.  First, by induction on the loops of the wait and along the
canonical sequence, each part fails only with errors of its own: `WaitFailure` lists those of a
wait, and `Step.FailsWith` passes a property of all setbacks of a step on to whatever a script stops
with.  Then the messages are compared.  No error that is `Encountered` has the message of one about
the configuration, whatever texts the two carry, because their second letters differ.

Decrypting is treated in the same way.  A plan that brings its password has no branch of a pass that
asks the decryptor, and after the wait nobody is asked for an identity at all.
-/

namespace AgentLaunch

/-- Errors that are met on the way: all, except those about the configuration, and commands that an
attempt does not run. -/
def LaunchError.Encountered : LaunchError → Prop
  | .config _ => False
  | .commandFailed step _ => step = "creating tmp directory" ∨ step = "init script"
  | _ => True

lemma getElem?_toList_append {front back : String} {i : Nat} {c : Char}
    (h : front.toList[i]? = some c) : (front ++ back).toList[i]? = some c := by
  obtain ⟨hi, -⟩ := List.getElem?_eq_some_iff.mp h
  rw [String.toList_append, List.getElem?_append_left hi, h]

/-- **The message of such an error is not one about the configuration.** -/
lemma LaunchError.Encountered.message_ne {e : LaunchError} (h : e.Encountered) (text : String) :
    e.message ≠ (LaunchError.config text).message := by
  intro hsame
  -- The messages of other kinds do not have this second letter.
  have hletter : e.message.toList[1]? = some 'o' := by
    rw [hsame]
    exact getElem?_toList_append (by decide)
  have hother : ∃ c, c ≠ 'o' ∧ e.message.toList[1]? = some c := by
    cases e with
    | config => exact h.elim
    | commandFailed step exitCode =>
        rcases h with rfl | rfl
        · exact ⟨'r', by decide, getElem?_toList_append (getElem?_toList_append (by decide))⟩
        · exact ⟨'n', by decide, getElem?_toList_append (getElem?_toList_append (by decide))⟩
    | timeout =>
        exact ⟨'i', by decide, getElem?_toList_append (getElem?_toList_append (by decide))⟩
    | cloud => exact ⟨'l', by decide, getElem?_toList_append (by decide)⟩
    | transport => exact ⟨'r', by decide, getElem?_toList_append (by decide)⟩
    | payload => exact ⟨'g', by decide, getElem?_toList_append (by decide)⟩
    | channel => exact ⟨'h', by decide, getElem?_toList_append (by decide)⟩
    | io => exact ⟨'O', by decide, getElem?_toList_append (by decide)⟩
  obtain ⟨c, hc, hc'⟩ := hother
  exact hc (Option.some.inj (hc'.symm.trans hletter))

namespace Attempt

open Dialogue

/-! ## Credentials -/

/-- A plan has what its security mode asks of it: a password that is supplied is there. -/
def HasCredentials (plan : LaunchPlan) : Prop :=
  plan.security = .suppliedPassword → plan.adminPassword.isSome

section Credentials

variable {plan : LaunchPlan} {es : List Event}

/-- What a wait for the management service can fail with. -/
inductive WaitFailure (plan : LaunchPlan) : LaunchError → Prop where
  | late (waitedSecs : Nat) : WaitFailure plan (.timeout waitedSecs)
  | undecryptable (cause : CloudError) : WaitFailure plan (.cloud cause)
  | notSupplied (hmode : plan.security = .suppliedPassword)
      (hpassword : plan.adminPassword = none) :
      WaitFailure plan (.config "supplied_password mode requires admin_password to be set")

lemma WaitFailure.encountered {e : LaunchError} (h : WaitFailure plan e)
    (hplan : HasCredentials plan) : e.Encountered := by
  cases h with
  | late => trivial
  | undecryptable => trivial
  | notSupplied hmode hpassword => simpa [hpassword] using hplan hmode

lemma FindsCredentials.failure {e : LaunchError} (h : FindsCredentials plan es (.error e)) :
    WaitFailure plan e := by
  cases h with
  | notSupplied hmode hpassword => exact .notSupplied hmode hpassword
  | undecryptable => exact .undecryptable _

/-- **Looking for credentials does not end in a complaint about the configuration**, whatever the
cloud and the decryptor reply, exactly if the plan has what it needs. -/
lemma resolveCredentials_blameless_iff : HasCredentials plan
    ↔ ∀ es text, ¬ Transcript (resolveCredentials plan).run es (some (.error (.config text))) := by
  constructor
  · intro hplan es text ht
    obtain ⟨r, hfinds, hr⟩ := transcript_resolveCredentials ht
    obtain rfl := Option.some.inj hr
    exact hfinds.failure.encountered hplan
  · intro hblameless hmode
    by_contra hpassword
    rw [Option.not_isSome_iff_eq_none] at hpassword
    refine hblameless [] "supplied_password mode requires admin_password to be set" ?_
    rw [resolveCredentials, hmode, hpassword]
    exact transcript_run_throw_iff.mpr ⟨rfl, rfl⟩

end Credentials

/-! ## The wait for the management service -/

section Waiting

variable {plan : LaunchPlan} {deadline : Deadline} {rounds : Nat} {es : List Event}

lemma ResolutionPass.failure {e : LaunchError} (h : ResolutionPass plan es (.error e)) :
    WaitFailure plan e := by
  cases h with
  | failed _ hfinds => exact hfinds.failure

lemma Search.failure {e : LaunchError} {o : Option (Except LaunchError SessionTarget)}
    (h : Search plan deadline rounds es o) (ho : o = some (.error e)) : WaitFailure plan e := by
  induction h with
  | outOfRounds | opened => simp at ho
  | late =>
      obtain rfl := Except.error.inj (Option.some.inj ho)
      exact .late _
  | failed _ hpass =>
      obtain rfl := Except.error.inj (Option.some.inj ho)
      exact (ResolutionPass.of_transcript hpass).failure
  | again _ _ _ ih => exact ih ho

lemma Wait.failure {stabilized : Bool} {e : LaunchError} {o : Option (Except LaunchError Unit)}
    (h : Wait plan deadline rounds stabilized es o) (ho : o = some (.error e)) :
    WaitFailure plan e := by
  induction h with
  | outOfRounds | ready => simp at ho
  | late =>
      obtain rfl := Except.error.inj (Option.some.inj ho)
      exact .late _
  | again _ _ _ ih => exact ih ho

lemma Establishment.failure {e : LaunchError}
    (h : Establishment plan rounds es (some (.error e))) : WaitFailure plan e := by
  generalize ho : (some (.error e) : Option (Except LaunchError SessionTarget)) = o at h
  cases h with
  | unresolved _ hsearch => exact hsearch.failure ho.symm
  | @resolved _ _ _ _ _ o' _ hwait =>
      obtain ⟨_ | _, rfl, hr⟩ := Option.map_eq_some_iff.mp ho.symm
      · obtain rfl := Except.error.inj hr
        exact hwait.failure rfl
      · cases hr

end Waiting

/-! ## The canonical sequence -/

/-- All setbacks in a step have errors of some kind. -/
def Step.FailsWith (P : LaunchError → Prop) : Step → Prop
  | say _ => True
  | ask _ _ setback? => ∀ reply s, setback? reply = some s → P s.error

section Provision

variable {P : LaunchError → Prop} {script : List Step} {es : List Event} {e : LaunchError}

lemma Stops.of_failsWith (h : Stops script es e) (hP : ∀ step ∈ script, step.FailsWith P) :
    P e := by
  induction h with
  | here reply hs => exact hP _ List.mem_cons_self reply _ hs
  | later _ _ ih => exact ih fun step hstep => hP step (List.mem_cons_of_mem _ hstep)

lemma error_of_failing {ε α : Type} (toError : ε → LaunchError) (h : ∀ e, P (toError e))
    (reply : Except ε α) (s : Setback) (hs : failing toError reply = some s) : P s.error := by
  cases reply with
  | ok => cases hs
  | error e =>
      obtain rfl := Option.some.inj hs
      exact h e

lemma failing_transport_encountered {α : Type} (reply : Except TransportError α) (s : Setback)
    (hs : failing .transport reply = some s) : s.error.Encountered :=
  error_of_failing .transport (fun _ => trivial) reply s hs

lemma failsWith_awaitStep {process : ProcessId} {step complaint : String}
    (h : step = "creating tmp directory" ∨ step = "init script") :
    (awaitStep process step complaint).FailsWith LaunchError.Encountered := by
  rintro (e | exitCode) s hs
  · obtain rfl := Option.some.inj hs
    trivial
  · obtain ⟨-, hs⟩ := Option.ite_none_left_eq_some.mp hs
    obtain rfl := Option.some.inj hs
    exact h

lemma failsWith_outputScript (hio : ∀ text, P (.io text)) (process : ProcessId)
    (output : Option CommandOutput) :
    ∀ step ∈ outputScript process output, step.FailsWith P := by
  cases output with
  | none => simp [outputScript, Step.FailsWith]
  | some output =>
      simp only [outputScript, List.forall_mem_cons]
      refine ⟨by simp [Step.FailsWith], fun output s hs => ?_, fun step hstep => ?_⟩
      · obtain ⟨text, -, rfl⟩ := Option.map_eq_some_iff.mp hs
        exact hio text
      · obtain ⟨line, -, rfl⟩ := List.mem_map.mp hstep
        trivial

lemma failsWith_initScript (plan : LaunchPlan) (dir : WorkDir) (marked : Bool)
    (process : ProcessId) (output : Option CommandOutput) :
    ∀ step ∈ initScript plan dir marked process output,
      step.FailsWith LaunchError.Encountered := by
  unfold initScript
  cases plan.effectiveInitScript with
  | none => simp
  | some text =>
      refine List.forall_mem_cons.mpr ⟨failing_transport_encountered, ?_⟩
      cases marked with
      | true => simp [Step.FailsWith]
      | false =>
          simp only [Bool.false_eq_true, if_false, initRunScript, initExecutionScript, markerScript,
            List.forall_mem_append, List.forall_mem_cons]
          refine ⟨⟨⟨?_, failsWith_outputScript (fun _ => trivial) _ _⟩,
            failsWith_awaitStep (.inr rfl), by simp⟩,
            failing_transport_encountered, trivial, by simp⟩
          exact ⟨trivial, failing_transport_encountered, failing_transport_encountered, by simp⟩

/-- **Nothing on the way to a started agent complains about the configuration.** -/
lemma failsWith_provisionScript (plan : LaunchPlan) (a : Answers) :
    ∀ step ∈ provisionScript plan a, step.FailsWith LaunchError.Encountered := by
  simp only [provisionScript, prepareScript, directoryScript, startScript, uploadScript, agentStep,
    List.forall_mem_append, List.forall_mem_cons]
  refine ⟨⟨⟨trivial, failing_transport_encountered, failsWith_awaitStep (.inl rfl), by simp⟩,
    failsWith_initScript _ _ _ _ _⟩, ?_, failing_transport_encountered, by simp⟩
  exact ⟨error_of_failing _ fun _ => trivial, failing_transport_encountered, trivial, trivial,
    by simp⟩

end Provision

/-! ## Whole attempts -/

/-- The channel takes every agent that it is offered. -/
def TakesAgents (es : List Event) : Prop :=
  ∀ name (reply : BindReply), called (.bind name) reply ∈ es → reply.verdict = .ok ()

section Attempts

variable {plan : LaunchPlan} {rounds : Nat} {es : List Event} {outcome : Outcome}

lemma HandsOver.encountered {agent : ProcessId} {name : String} {e : LaunchError}
    (h : HandsOver agent name es (.error e)) (htakes : TakesAgents es) : e.Encountered := by
  generalize hr : (Except.error e : Except LaunchError Unit) = r at h
  cases h with
  | noStreams =>
      obtain rfl := Except.error.inj hr
      trivial
  | offered channel =>
      have hverdict := htakes name channel (by simp)
      cases hverdict ▸ hr

lemma UsesSession.encountered {reason : String} (h : UsesSession plan es outcome)
    (houtcome : outcome = .aborted reason) (htakes : TakesAgents es) :
    ∃ e : LaunchError, e.Encountered ∧ reason = e.message := by
  cases h with
  | notProvisioned hstop =>
      obtain rfl := Outcome.aborted.inj houtcome
      exact ⟨_, hstop.of_failsWith (failsWith_provisionScript plan _), rfl⟩
  | @provisioned _ _ _ r _ hhand =>
      cases r with
      | ok => cases houtcome
      | error e =>
          obtain rfl := Outcome.aborted.inj houtcome
          refine ⟨e, hhand.encountered fun name reply hmem => htakes name reply ?_, rfl⟩
          simp [hmem]

/-- **An attempt that has its password does not blame the configuration**, whatever the others
reply, if the channel takes the agent. -/
theorem LaunchCourse.aborted {reason : String}
    (h : LaunchCourse plan rounds es (some (.aborted reason))) (hplan : HasCredentials plan)
    (htakes : TakesAgents es) : ∃ e : LaunchError, e.Encountered ∧ reason = e.message := by
  generalize ho : some (Outcome.aborted reason) = o at h
  cases h with
  | unfinished => cases ho
  | concluded hwait hconcludes =>
      obtain rfl := Option.some.inj ho
      generalize houtcome : Outcome.aborted reason = outcome at hconcludes
      cases hconcludes with
      | timedOut => cases houtcome
      | failed he =>
          obtain rfl := Outcome.aborted.inj houtcome
          exact ⟨_, hwait.failure.encountered hplan, rfl⟩
      | connected huse =>
          refine huse.encountered houtcome.symm fun name reply hmem => htakes name reply ?_
          exact List.mem_append_right _ hmem

end Attempts

/-! ## Decrypting -/

/-- Requests to decrypt something. -/
def Request.Decrypts : Request → Prop
  | .call (.decrypt _) => True
  | _ => False

/-- Nothing is decrypted in some events. -/
def DecryptsNothing (es : List Event) : Prop := ∀ x ∈ es, ¬ x.request.Decrypts

section Decrypting

variable {plan : LaunchPlan} {deadline : Deadline} {rounds : Nat} {es es' : List Event}

@[simp] lemma decryptsNothing_nil : DecryptsNothing [] := by simp [DecryptsNothing]

@[simp] lemma decryptsNothing_cons {x : Event} :
    DecryptsNothing (x :: es) ↔ ¬ x.request.Decrypts ∧ DecryptsNothing es := List.forall_mem_cons

@[simp] lemma decryptsNothing_append :
    DecryptsNothing (es ++ es') ↔ DecryptsNothing es ∧ DecryptsNothing es' :=
  List.forall_mem_append

lemma ResolutionPass.decryptsNothing {r : Except LaunchError (Option SessionTarget)}
    (h : ResolutionPass plan es r) (hmode : plan.security = .suppliedPassword) :
    DecryptsNothing es := by
  have hfinds : ∀ {es r}, FindsCredentials plan es r → es = [] := by
    intro es r hfinds
    cases hfinds with
    | supplied | notSupplied => rfl
    | unavailable hderived | notGenerated hderived | undecryptable hderived | derived hderived =>
        cases hmode.symm.trans hderived
  cases h with
  | undescribed | unassigned => simp [called, said, Request.Decrypts]
  | pending _ h | failed _ h | opened _ h => simp [hfinds h, called, said, Request.Decrypts]

lemma Search.decryptsNothing {o : Option (Except LaunchError SessionTarget)}
    (h : Search plan deadline rounds es o) (hmode : plan.security = .suppliedPassword) :
    DecryptsNothing es := by
  have hpasses : ∀ {es r}, Transcript (resolutionPass plan).run es (some r) → DecryptsNothing es :=
    fun ht => (ResolutionPass.of_transcript ht).decryptsNothing hmode
  induction h with
  | outOfRounds | late => simp [looked, Request.Decrypts]
  | opened _ hpass | failed _ hpass => simp [looked, Request.Decrypts, hpasses hpass]
  | again _ hpass _ ih => simp [looked, slept, Request.Decrypts, hpasses hpass, ih]

lemma ProbingPass.decryptsNothing {stabilized : Bool} {r : Readiness}
    (h : ProbingPass plan deadline stabilized es r) : DecryptsNothing es := by
  cases h <;> simp [probing, stabilizing, looked, pinged, slept, said, Request.Decrypts]

lemma Wait.decryptsNothing {stabilized : Bool} {o : Option (Except LaunchError Unit)}
    (h : Wait plan deadline rounds stabilized es o) : DecryptsNothing es := by
  induction h with
  | outOfRounds | late => simp [looked, called, Request.Decrypts]
  | ready _ hpass => simp [looked, said, Request.Decrypts, hpass.decryptsNothing]
  | again _ hpass _ ih => simp [looked, slept, Request.Decrypts, hpass.decryptsNothing, ih]

lemma Establishment.decryptsNothing {o : Option (Except LaunchError SessionTarget)}
    (h : Establishment plan rounds es o) (hmode : plan.security = .suppliedPassword) :
    DecryptsNothing es := by
  cases h with
  | unresolved _ hsearch =>
      simp [opening, looked, said, dated, Request.Decrypts, hsearch.decryptsNothing hmode]
  | resolved hsearch hwait =>
      simp [opening, looked, said, dated, Request.Decrypts, hsearch.decryptsNothing hmode,
        hwait.decryptsNothing]

lemma Request.Decrypts.identifies {r : Request} (h : r.Decrypts) : r.Identifies := by
  rcases r with _ | _ | _ | _ | _ | c
  case call => cases c <;> first | exact h.elim | trivial
  all_goals exact h.elim

/-- **An attempt whose password is supplied decrypts nothing.** -/
theorem LaunchCourse.decryptsNothing {o : Option Outcome} (h : LaunchCourse plan rounds es o)
    (hmode : plan.security = .suppliedPassword) : DecryptsNothing es := by
  cases h with
  | unfinished hwait => exact hwait.decryptsNothing hmode
  | concluded hwait hconcludes =>
      refine decryptsNothing_append.mpr ⟨hwait.decryptsNothing hmode, fun x hx hdecrypts => ?_⟩
      exact hconcludes.identifiesNothing x hx hdecrypts.identifies

end Decrypting

end Attempt

end AgentLaunch
