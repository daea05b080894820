import AgentLaunch.Proofs.Attempt.Launch
import AgentLaunch.Proofs.Likeness

/-!
# Parts of an attempt that do not see the password

A password comes into an attempt from its plan or from the decryptor, and leaves it in a session
target.  Somebody who sees everything else, with the passwords hidden, sees two attempts with
different passwords do the same.  This module shows it for the parts that have nothing to do with
credentials: as long as the replies look the same, such a part makes the very same requests.

* `hidePassword` — what can be seen of a request with its reply.
* `Blind` — a part that does the same for all passwords; a part made of such parts is one.
* `blind_conclude`, `blind_awaitReady` — everything from the session on.

An activity is compared with itself here.  A `Likeness` says which events look the same, and `Blind`
is the special case of likeness in which the activity is the same on both sides and so is its
result.  Sequencing keeps that (`Blind.bind`), and so nearly every lemma below follows the
definition of its activity, line by line.  Only three go by induction: writing a number of lines,
what a channel does while it is being bound, and the rounds of the last loop.

What is left out is the search for a session.  Its credentials and targets do differ between the two
sides, so its results are related rather than the same; that is the subject of `Password`.
-/

namespace AgentLaunch

/-- Any password, seen by somebody who must not see it. -/
def Secret.hidden : Secret := {}

def SessionTarget.hidePassword (target : SessionTarget) : SessionTarget :=
  { target with password := .hidden }

def LaunchPlan.hidePassword (plan : LaunchPlan) : LaunchPlan :=
  { plan with adminPassword := plan.adminPassword.map fun _ => .hidden }

namespace Attempt

open Dialogue (Alike Likeness ResultsAlike)

/-! ## Hiding passwords -/

/-- A call without the password in it: only a session target has one. -/
def Call.hidePassword : Call → Call
  | .openSession target => .openSession target.hidePassword
  | c => c

def Request.hidePassword : Request → Request
  | .call c => .call c.hidePassword
  | r => r

/-- A request with its reply, without the passwords in them: only decrypting gives one. -/
def hidePassword : Event → Event
  | ⟨.call (.openSession target), _⟩ => ⟨.call (.openSession target.hidePassword), ()⟩
  | ⟨.call (.decrypt material), reply⟩ =>
    ⟨.call (.decrypt material), Except.map (fun _ => Secret.hidden) reply⟩
  | x => x

/-- What differs in passwords alone looks the same. -/
def passwordsHidden : Likeness signature where
  requests r r' := r.hidePassword = r'.hidePassword
  events x x' := hidePassword x = hidePassword x'

/-! ## Parts that do not see the password -/

/-- An activity that does the same for all passwords. -/
def Blind {α : Type} (activity : Activity α) : Prop :=
  Alike passwordsHidden Eq activity activity

section Blind

variable {α β ε : Type}

lemma blind_pure (a : α) : Blind (pure a) := .done rfl

lemma Blind.bind {activity : Activity α} {f : α → Activity β} (h : Blind activity)
    (hf : ∀ a, Blind (f a)) : Blind (activity >>= f) := by
  refine Alike.bind h ?_
  rintro a _ rfl
  exact hf a

/-- A request that gets no password. -/
lemma blind_request {r : Request} (hr : ∀ material, r ≠ .call (.decrypt material)) :
    Blind (Dialogue.request (S := signature) r) := by
  refine .ask rfl fun reply reply' hlooks => .done ?_
  cases r with
  | call c =>
      cases c with
      | decrypt material => exact absurd rfl (hr material)
      | openSession target => rfl
      | _ => exact eq_of_heq (Dialogue.Event.mk.inj hlooks).2
  | _ => exact eq_of_heq (Dialogue.Event.mk.inj hlooks).2

lemma blind_log (line : String) : Blind (log line) := blind_request (by simp)

lemma blind_call {c : Call} (hc : ∀ material, c ≠ .decrypt material) : Blind (call c) :=
  blind_request (by simpa using hc)

/-! ### Stages -/

lemma Blind.lift {activity : Activity α} (h : Blind activity) :
    Blind (liftM activity : Stage α).run :=
  h.bind fun _ => .done rfl

lemma Blind.run_bind {x : Stage α} {f : α → Stage β} (h : Blind x.run)
    (hf : ∀ a, Blind (f a).run) : Blind (x >>= f).run := by
  refine Blind.bind h fun r => ?_
  cases r with
  | ok a => exact hf a
  | error e => exact .done rfl

lemma blind_run_pure (a : α) : Blind (pure a : Stage α).run := .done rfl

lemma blind_run_throw (e : LaunchError) : Blind (throw e : Stage α).run := .done rfl

lemma blind_orFail (toError : ε → LaunchError) {activity : Activity (Except ε α)}
    (h : Blind activity) : Blind (orFail toError activity).run := by
  refine h.bind fun r => ?_
  cases r with
  | ok a => exact .done rfl
  | error e => exact .done rfl

lemma blind_execute (command : String) (limit : Option Nat) :
    Blind (execute command limit).run :=
  blind_orFail _ (blind_call (by simp))

lemma blind_putFile (path : String) (contents : Bytes) : Blind (putFile path contents).run :=
  blind_orFail _ (blind_call (by simp))

end Blind

/-! ## With a session -/

section Session

lemma blind_logAll (lines : List String) :
    Blind (lines.forM fun line => (log line : Stage Unit)).run := by
  induction lines with
  | nil => exact blind_run_pure ()
  | cons line lines ih => exact (blind_log line).lift.run_bind fun _ => ih

lemma blind_awaitSuccess (process : ProcessId) (step complaint : String) :
    Blind (awaitSuccess process step complaint).run := by
  unfold awaitSuccess
  refine (blind_orFail _ (blind_call (by simp))).run_bind fun exitCode => ?_
  split
  · exact (blind_log _).lift.run_bind fun _ => blind_run_throw _
  · exact blind_run_pure ()

lemma blind_makeDir (dir : WorkDir) : Blind (makeDir dir).run :=
  (blind_log _).lift.run_bind fun _ => (blind_execute _ _).run_bind fun process =>
    blind_awaitSuccess process _ _

lemma blind_showOutputIfAny (process : ProcessId) : Blind (showOutputIfAny process).run := by
  unfold showOutputIfAny showOutput
  refine (blind_call (by simp)).lift.run_bind fun claimed => ?_
  split
  · refine (blind_call (by simp)).lift.run_bind fun output => ?_
    refine (blind_logAll _).run_bind fun _ => ?_
    cases output.failure with
    | some text => exact blind_run_throw _
    | none => exact blind_run_pure ()
  · exact blind_run_pure ()

lemma blind_runInitScript (dir : WorkDir) (script : String) :
    Blind (runInitScript dir script).run := by
  unfold runInitScript
  refine (blind_log _).lift.run_bind fun _ => ?_
  refine (blind_putFile _ _).run_bind fun _ => ?_
  refine (blind_execute _ _).run_bind fun process => ?_
  refine (blind_showOutputIfAny process).run_bind fun _ => ?_
  refine (blind_awaitSuccess process _ _).run_bind fun _ => ?_
  exact (blind_putFile _ _).run_bind fun _ => (blind_log _).lift

lemma blind_prepare (plan : LaunchPlan) : Blind (prepare plan).run := by
  unfold prepare runInitOnce
  refine (blind_makeDir _).run_bind fun _ => .run_bind ?_ fun _ => blind_run_pure _
  cases plan.effectiveInitScript with
  | none => exact blind_run_pure _
  | some script =>
      refine (blind_orFail _ (blind_call (by simp))).run_bind fun marked => ?_
      split
      · exact (blind_log _).lift.run_bind fun _ => blind_run_pure _
      · exact (blind_runInitScript _ script).run_bind fun _ => blind_run_pure _

lemma blind_startAgent (plan : LaunchPlan) (dir : WorkDir) : Blind (startAgent plan dir).run := by
  unfold startAgent
  refine (blind_orFail _ (blind_call (by simp))).run_bind fun payload => ?_
  refine (blind_putFile _ _).run_bind fun _ => ?_
  refine (blind_log _).lift.run_bind fun _ => ?_
  exact (blind_log _).lift.run_bind fun _ => blind_execute _ _

lemma blind_tearDown (process : ProcessId) : Blind (tearDown process) :=
  (blind_call (by simp)).bind fun _ => blind_call (by simp)

lemma blind_fire (hook : CloseHook) : Blind hook.fire := by
  unfold CloseHook.fire
  split
  · exact blind_pure _
  · exact (blind_tearDown _).bind fun _ => blind_pure _

lemma blind_performActions (hook : CloseHook) (actions : List ChannelAction) :
    Blind (performActions hook actions) := by
  induction actions generalizing hook with
  | nil => exact blind_pure hook
  | cons action rest ih =>
      cases action with
      | say line => exact (blind_log line).bind fun _ => ih hook
      | drain => exact (blind_call (by simp)).bind fun _ => ih hook
      | fireHook =>
          exact (blind_fire hook).bind fun fired => (blind_call (by simp)).bind fun _ => ih fired.2

lemma blind_handOver (process : ProcessId) (name : String) : Blind (handOver process name).run := by
  unfold handOver
  refine (blind_call (by simp)).lift.run_bind fun output => ?_
  refine (blind_call (by simp)).lift.run_bind fun input => ?_
  split
  · refine (blind_call (by simp)).lift.run_bind fun reply => ?_
    refine (blind_performActions _ _).lift.run_bind fun hook => ?_
    cases reply.verdict with
    | ok =>
        exact (blind_call (by simp)).lift.run_bind fun _ => (blind_log _).lift
    | error e => exact (blind_fire hook).lift.run_bind fun _ => blind_run_throw e
  · exact (blind_tearDown process).lift.run_bind fun _ => blind_run_throw _

lemma blind_abort (e : LaunchError) : Blind (abort e) := by
  unfold abort
  cases e with
  | commandFailed => exact blind_pure _
  | _ => exact (blind_log _).bind fun _ => blind_pure _

lemma blind_useSession (plan : LaunchPlan) : Blind (useSession plan) := by
  unfold useSession provision
  refine Blind.bind ((blind_prepare plan).run_bind fun prepared => blind_startAgent plan _) ?_
  rintro (e | process)
  · exact (blind_call (by simp)).bind fun _ => blind_abort e
  · refine Blind.bind (blind_handOver process _) ?_
    rintro (e | _)
    · exact blind_abort e
    · exact blind_pure _

lemma blind_conclude (plan : LaunchPlan) (r : Except LaunchError SessionTarget) :
    Blind (conclude plan r) := by
  rcases r with e | target
  · by_cases he : ∃ secs, e = .timeout secs
    · obtain ⟨secs, rfl⟩ := he
      exact (blind_log _).bind fun _ => blind_pure _
    · rw [conclude_error (by simpa using he)]
      exact blind_abort e
  · exact blind_useSession plan

end Session

/-! ## Waiting for the management service -/

section Waiting

variable (plan : LaunchPlan) (deadline : Deadline)

lemma blind_overrun : Blind deadline.overrun? :=
  (blind_request (by simp)).bind fun _ => blind_pure _

lemma blind_probe : Blind (probe deadline) := by
  have hremaining : Blind deadline.remaining := (blind_request (by simp)).bind fun _ => blind_pure _
  unfold probe
  refine hremaining.bind fun budget => Blind.bind (blind_request (by simp)) fun reply => ?_
  rcases reply with _ | _ | reachable
  · exact blind_pure _
  · exact blind_pure _
  · exact blind_pure _

lemma blind_sleep (duration : Nat) : Blind (sleep duration) := blind_request (by simp)

lemma blind_stabilize : Blind (stabilize plan deadline) := by
  unfold stabilize
  refine (blind_log _).bind fun _ => (blind_sleep _).bind fun _ => (blind_log _).bind fun _ => ?_
  refine (blind_probe deadline).bind fun reachable => ?_
  split
  · exact blind_pure _
  · exact (blind_log _).bind fun _ => blind_pure _

lemma blind_probingPass (stabilized : Bool) : Blind (probingPass plan deadline stabilized) := by
  unfold probingPass
  refine (blind_probe deadline).bind fun reachable => ?_
  split
  · split
    · exact blind_stabilize plan deadline
    · exact blind_pure _
  · exact (blind_log _).bind fun _ => blind_pure _

lemma blind_awaitReady (rounds : Nat) (stabilized : Bool) :
    Blind (awaitReady plan deadline rounds stabilized).run := by
  induction rounds generalizing stabilized with
  | zero => exact .unfinished
  | succ rounds ih =>
      unfold awaitReady
      refine (blind_overrun deadline).lift.run_bind fun late => ?_
      cases late with
      | some waited => exact (blind_call (by simp)).lift.run_bind fun _ => blind_run_throw _
      | none =>
          refine (blind_probingPass plan deadline stabilized).lift.run_bind fun readiness => ?_
          cases readiness with
          | ready => exact (blind_log _).lift
          | waiting stabilized => exact (blind_sleep _).lift.run_bind fun _ => ih stabilized

end Waiting

end Attempt

end AgentLaunch
