import AgentLaunch.Proofs.Attempt.Blindness
import AgentLaunch.Rehearsal.World

/-!
# Passwords show in session targets only

Two attempts whose plans and decryptors differ in the password alone are held side by side.  What
is related through the search for a session are credentials and targets with different passwords;
once there is a session, nobody looks at its target any more, and the rest is the same.

* `alike_launch` — both attempts do the same as long as the replies look the same.
* `RepliesAlike` — surroundings that do not let the password influence their replies.
* **`launch_hidesPassword`** — both runs look the same.

The relation between the two sides is a `Likeness` of events with a relation of results.  As long as
passwords are looked for, results are `FoundAlike` or `TargetsAlike`; from the session on they are
equal, which is what `Blindness` has prepared, and `Blind.alike_bind` is the step from one to the
other.  The only inductions are those on the rounds of the two loops.

A run is more than its transcript, as its surroundings have a memory and a clock.  Two surroundings
*reply alike* if the password makes no difference to what they say and how long they take, and
leaves their memories related again.  Such runs agree in their outcome, in the time of every
exchange, and in all of their lines, which is stronger than saying that no line has the password in
it: a line that depended on its length would tell the two runs apart.
-/

namespace AgentLaunch.Attempt

open Dialogue (Alike ResultsAlike)

/-! ## Plans with different passwords -/

/-- Stages that do the same for all passwords, with results that are related. -/
abbrev StagesAlike {α : Type} (Q : α → α → Prop) (x x' : Stage α) : Prop :=
  Alike passwordsHidden (ResultsAlike Q) x.run x'.run

lemma alike_pure {α : Type} {Q : α → α → Prop} {a a' : α} (h : Q a a') :
    StagesAlike Q (pure a) (pure a') :=
  .done (.ok h)

lemma alike_throw {α : Type} {Q : α → α → Prop} (e : LaunchError) :
    StagesAlike Q (throw e) (throw e) :=
  .done (.error e)

/-- What follows a part that does not see the password. -/
lemma Blind.alike_bind {α β : Type} {Q : β → β → Prop} {x : Stage α} {f f' : α → Stage β}
    (h : Blind x.run) (hf : ∀ a, StagesAlike Q (f a) (f' a)) :
    StagesAlike Q (x >>= f) (x >>= f') := by
  refine Alike.bind h ?_
  rintro (e | a) _ rfl
  · exact .done (.error e)
  · exact hf a

/-- Credentials that differ in the password alone. -/
inductive FoundAlike : Resolution → Resolution → Prop where
  | ready (username : String) (password password' : Secret) :
      FoundAlike (.ready ⟨username, password⟩) (.ready ⟨username, password'⟩)
  | pending : FoundAlike .pending .pending

/-- Session targets that differ in the password alone. -/
def TargetsAlike (target target' : SessionTarget) : Prop :=
  target.hidePassword = target'.hidePassword

section Plans

variable (plan : LaunchPlan) (password : Option Secret)

lemma awaitReady_withPassword (deadline : Deadline) (rounds : Nat) (stabilized : Bool) :
    awaitReady { plan with adminPassword := password } deadline rounds stabilized
      = awaitReady plan deadline rounds stabilized := by
  induction rounds generalizing stabilized with
  | zero => rfl
  | succ rounds ih =>
      unfold awaitReady
      simp only [ih]
      rfl

/-- A password that is decrypted, or none that can be. -/
lemma alike_decrypt (material : String) :
    StagesAlike (fun _ _ => True) (orFail .cloud (call (.decrypt material)))
      (orFail .cloud (call (.decrypt material))) := by
  refine .ask rfl fun reply reply' hlooks => ?_
  have hreplies : Except.map (fun _ => Secret.hidden) reply
      = Except.map (fun _ => Secret.hidden) reply' :=
    eq_of_heq (Dialogue.Event.mk.inj hlooks).2
  rcases reply with e | found <;> rcases reply' with e' | found'
  · obtain rfl := Except.error.inj hreplies
    exact .done (.error _)
  · cases hreplies
  · cases hreplies
  · exact .done (.ok trivial)

lemma alike_deriveCredentials :
    StagesAlike FoundAlike (deriveCredentials plan)
      (deriveCredentials { plan with adminPassword := password }) := by
  unfold deriveCredentials
  refine Blind.alike_bind (blind_call (by simp)).lift fun reply => ?_
  cases reply with
  | error e => exact (blind_log _).lift.alike_bind fun _ => alike_pure .pending
  | ok reported =>
      dsimp only
      cases reported.bind Text.trimmed? with
      | none => exact (blind_log _).lift.alike_bind fun _ => alike_pure .pending
      | some material =>
          refine Alike.run_bind (alike_decrypt material) fun found found' _ => ?_
          dsimp only
          split
          · exact (blind_log _).lift.alike_bind fun _ => alike_pure (.ready _ found found')
          · exact alike_pure (.ready _ found found')

lemma alike_resolveCredentials (h : plan.adminPassword.isSome = password.isSome) :
    StagesAlike FoundAlike (resolveCredentials plan)
      (resolveCredentials { plan with adminPassword := password }) := by
  obtain hmode | hmode : plan.security = .derivedPassword ∨ plan.security = .suppliedPassword := by
    cases plan.security <;> simp
  · have hderives : ∀ plan : LaunchPlan, plan.security = .derivedPassword →
        resolveCredentials plan = deriveCredentials plan := by
      intro plan hmode
      rw [resolveCredentials, hmode]
    rw [hderives plan hmode, hderives { plan with adminPassword := password } hmode]
    exact alike_deriveCredentials plan password
  · unfold resolveCredentials
    rw [hmode]
    dsimp only
    cases hsupplied : plan.adminPassword <;> cases password <;> rw [hsupplied] at h
    · exact alike_throw _
    · cases h
    · cases h
    · exact alike_pure (.ready _ _ _)

lemma alike_openSession (host username : String) (found found' : Secret) :
    StagesAlike TargetsAlike (openSession plan host ⟨username, found⟩)
      (openSession { plan with adminPassword := password } host ⟨username, found'⟩) := by
  unfold openSession
  refine (blind_log _).lift.alike_bind fun _ => ?_
  refine Alike.ask rfl fun _ _ _ => ?_
  exact alike_pure rfl

lemma alike_resolutionPass (h : plan.adminPassword.isSome = password.isSome) :
    StagesAlike (Option.Rel TargetsAlike) (resolutionPass plan)
      (resolutionPass { plan with adminPassword := password }) := by
  unfold resolutionPass
  refine Blind.alike_bind (blind_call (by simp)).lift fun reply => ?_
  cases reply with
  | error e => exact (blind_log _).lift.alike_bind fun _ => alike_pure .none
  | ok description =>
      dsimp only
      split
      · exact (blind_log _).lift.alike_bind fun _ => alike_pure .none
      · refine Alike.run_bind (alike_resolveCredentials plan password h) ?_
        rintro _ _ (⟨username, found, found'⟩ | _)
        · refine Alike.bind (alike_openSession plan password _ username found found') ?_
          rintro _ _ (htargets | e)
          · exact .done (.ok (.some htargets))
          · exact .done (.error e)
        · exact .done (.ok .none)

lemma alike_resolve (h : plan.adminPassword.isSome = password.isSome) (deadline : Deadline)
    (rounds : Nat) :
    StagesAlike TargetsAlike (resolve plan deadline rounds)
      (resolve { plan with adminPassword := password } deadline rounds) := by
  induction rounds with
  | zero => exact .unfinished
  | succ rounds ih =>
      unfold resolve
      refine (blind_overrun deadline).lift.alike_bind fun late => ?_
      cases late with
      | some waited => exact alike_throw _
      | none =>
          refine Alike.run_bind (alike_resolutionPass plan password h) ?_
          rintro _ _ (htargets | _)
          · exact alike_pure htargets
          · exact (blind_sleep _).lift.alike_bind fun _ => ih

lemma alike_establish (h : plan.adminPassword.isSome = password.isSome) (rounds : Nat) :
    StagesAlike TargetsAlike (establish plan rounds)
      (establish { plan with adminPassword := password } rounds) := by
  unfold establish
  refine Blind.alike_bind (blind_request (by simp)).lift fun start => ?_
  refine (blind_log _).lift.alike_bind fun _ => ?_
  refine Blind.alike_bind (blind_request (by simp)).lift fun now => ?_
  refine Alike.run_bind (alike_resolve plan password h _ rounds) fun target target' htargets => ?_
  rw [awaitReady_withPassword plan password]
  exact (blind_awaitReady plan _ rounds _).alike_bind fun _ => alike_pure htargets

lemma alike_launch (h : plan.adminPassword.isSome = password.isSome) (rounds : Nat) :
    Alike passwordsHidden Eq (launch plan rounds)
      (launch { plan with adminPassword := password } rounds) := by
  rw [launch_eq, launch_eq]
  refine Alike.bind (alike_establish plan password h rounds) ?_
  rintro r r' hresults
  have hsame : conclude plan r = conclude { plan with adminPassword := password } r' := by
    rcases hresults with htargets | e
    · rfl
    · cases e <;> rfl
  rw [← hsame]
  exact blind_conclude plan r

end Plans

/-! ## Runs -/

section Runs

variable {σ σ' : Type}

/-- Two surroundings that reply alike: from memories that go together they give the same replies to
the same calls, passwords apart, take the same time for them, and their memories still go
together. -/
structure RepliesAlike (R : σ → σ' → Prop) (world : Surroundings σ) (world' : Surroundings σ') :
    Prop where
  answer : ∀ memory memory' time c c', R memory memory' → c.hidePassword = c'.hidePassword →
    hidePassword ⟨.call c, (world.answer memory time c).1⟩
        = hidePassword ⟨.call c', (world'.answer memory' time c').1⟩
      ∧ (world.answer memory time c).2.1 = (world'.answer memory' time c').2.1
      ∧ R (world.answer memory time c).2.2 (world'.answer memory' time c').2.2
  ping : ∀ memory memory' time, R memory memory' →
    (world.ping memory time).1 = (world'.ping memory' time).1
      ∧ R (world.ping memory time).2 (world'.ping memory' time).2
  today : ∀ memory memory' time, R memory memory' →
    world.today memory time = world'.today memory' time

/-- The same time, and memories that go together. -/
def ScenesAlike (R : σ → σ' → Prop) (s : Scene σ) (s' : Scene σ') : Prop :=
  R s.memory s'.memory ∧ s.clock = s'.clock

variable {R : σ → σ' → Prop} {world : Surroundings σ} {world' : Surroundings σ'}

/-- Requests that look the same are the same, or calls that look the same. -/
lemma eq_or_calls {r r' : Request} (h : r.hidePassword = r'.hidePassword) :
    r = r' ∨ ∃ c c', r = .call c ∧ r' = .call c' ∧ c.hidePassword = c'.hidePassword := by
  cases r <;> cases r' <;> simp_all [Request.hidePassword]

/-- Calls that look the same are the same, or open a session each. -/
lemma eq_or_openSession {c c' : Call} (h : c.hidePassword = c'.hidePassword) :
    c = c' ∨ ∃ target target', c = .openSession target ∧ c' = .openSession target' := by
  have hplain : ∀ c : Call, c.hidePassword = c ∨ ∃ target, c = .openSession target := by
    intro c
    cases c with
    | openSession target => exact .inr ⟨target, rfl⟩
    | _ => exact .inl rfl
  rcases hplain c with hc | ⟨target, rfl⟩ <;> rcases hplain c' with hc' | ⟨target', rfl⟩
  · exact .inl (hc.symm.trans (h.trans hc'))
  · rw [hc] at h
    exact .inr ⟨_, target', h, rfl⟩
  · rw [hc'] at h
    exact .inr ⟨target, _, rfl, h.symm⟩
  · exact .inr ⟨target, target', rfl, rfl⟩

lemma RepliesAlike.respond_call (h : RepliesAlike R world world') {s : Scene σ} {s' : Scene σ'}
    {c c' : Call} (hs : ScenesAlike R s s') (hc : c.hidePassword = c'.hidePassword) :
    hidePassword ⟨.call c, (world.respond s (.call c)).1⟩
        = hidePassword ⟨.call c', (world'.respond s' (.call c')).1⟩
      ∧ ScenesAlike R (world.respond s (.call c)).2 (world'.respond s' (.call c')).2 := by
  obtain ⟨memory, clock⟩ := s
  obtain ⟨memory', clock'⟩ := s'
  obtain ⟨hmemory, rfl : clock = clock'⟩ := hs
  obtain ⟨hreply, hduration, hafter⟩ := h.answer memory memory' clock c c' hmemory hc
  exact ⟨hreply, hafter, congrArg (clock + ·) hduration⟩

lemma RepliesAlike.respond_ping (h : RepliesAlike R world world') {s : Scene σ} {s' : Scene σ'}
    (hs : ScenesAlike R s s') (budget : Nat) :
    (world.respond s (.ping budget)).1 = (world'.respond s' (.ping budget)).1
      ∧ ScenesAlike R (world.respond s (.ping budget)).2 (world'.respond s' (.ping budget)).2 := by
  obtain ⟨memory, clock⟩ := s
  obtain ⟨memory', clock'⟩ := s'
  obtain ⟨hmemory, rfl : clock = clock'⟩ := hs
  have hping := h.ping memory memory' clock hmemory
  cases htaken : world.ping memory clock with
  | mk behaviour after =>
      cases htaken' : world'.ping memory' clock with
      | mk behaviour' after' =>
          rw [htaken, htaken'] at hping
          obtain ⟨rfl, hafter⟩ := hping
          simp only [Surroundings.respond, htaken, htaken']
          cases behaviour with
          | silent => exact ⟨rfl, hafter, rfl⟩
          | answers delay reply =>
              by_cases hdelay : delay ≤ budget
              · simp only [if_pos hdelay]
                exact ⟨trivial, hafter, rfl⟩
              · simp only [if_neg hdelay]
                exact ⟨trivial, hafter, rfl⟩

/-- What looks the same is taken the same way. -/
lemma RepliesAlike.respond (h : RepliesAlike R world world') {s : Scene σ} {s' : Scene σ'}
    {r r' : Request} (hs : ScenesAlike R s s') (hr : r.hidePassword = r'.hidePassword) :
    hidePassword ⟨r, (world.respond s r).1⟩ = hidePassword ⟨r', (world'.respond s' r').1⟩
      ∧ ScenesAlike R (world.respond s r).2 (world'.respond s' r').2 := by
  rcases eq_or_calls hr with rfl | ⟨c, c', rfl, rfl, hc⟩
  · cases r with
    | log line => exact ⟨rfl, hs⟩
    | sleep duration => exact ⟨rfl, hs.1, congrArg (· + duration) hs.2⟩
    | elapsed =>
        have hclock : (world.respond s .elapsed).1 = (world'.respond s' .elapsed).1 := hs.2
        exact ⟨congrArg (fun reply => hidePassword ⟨.elapsed, reply⟩) hclock, hs⟩
    | today =>
        have hdate : world.today s.memory s.clock = world'.today s'.memory s'.clock := by
          rw [← hs.2]
          exact h.today _ _ _ hs.1
        exact ⟨congrArg (fun reply => hidePassword ⟨.today, reply⟩) hdate, hs⟩
    | ping budget =>
        obtain ⟨hreply, hafter⟩ := h.respond_ping hs budget
        exact ⟨congrArg (fun reply => hidePassword ⟨.ping budget, reply⟩) hreply, hafter⟩
    | call c => exact h.respond_call hs rfl
  · exact h.respond_call hs hc

/-- No password is logged. -/
lemma logged_map_hidePassword (es : List Event) : logged (es.map hidePassword) = logged es := by
  unfold logged
  rw [List.filterMap_map]
  refine List.filterMap_congr fun x _ => ?_
  obtain ⟨request, reply⟩ := x
  cases request with
  | call c => cases c <;> rfl
  | _ => rfl

/-- What can be seen of an exchange: when it happened, and what was said apart from passwords. -/
def seen (x : Dialogue.Exchange signature (Scene σ)) : Nat × Event :=
  (x.before.clock, hidePassword x.event)

/-- **Two runs that look the same**: they have the same outcome at the same time, and the same
exchanges at the same times, passwords apart; so the same lines are logged. -/
structure LooksTheSame (run : Dialogue.Run signature (Scene σ) Outcome)
    (run' : Dialogue.Run signature (Scene σ') Outcome) : Prop where
  outcome : run.result = run'.result
  clock : run.after.clock = run'.after.clock
  exchanges : run.exchanges.map seen = run'.exchanges.map seen
  lines : logged run.events = logged run'.events

lemma looksTheSame_of_alike {plan plan' : LaunchPlan} {rounds : Nat}
    (h : Alike passwordsHidden Eq (launch plan rounds) (launch plan' rounds))
    (hworlds : RepliesAlike R world world') {s : Scene σ} {s' : Scene σ'}
    (hs : ScenesAlike R s s') :
    LooksTheSame (world.run (launch plan rounds) s) (world'.run (launch plan' rounds) s') := by
  obtain ⟨hresult, hafter, hexchanges⟩ :=
    h.run (fun _ _ _ _ hs hr => hworlds.respond hs hr) hs
  have hseen : (world.run (launch plan rounds) s).exchanges.map seen
      = (world'.run (launch plan' rounds) s').exchanges.map seen := by
    rw [← List.forall₂_eq_eq_eq, List.forall₂_map_left_iff, List.forall₂_map_right_iff]
    refine hexchanges.imp fun x x' hx => ?_
    exact Prod.ext hx.1.2 hx.2
  have houtcome : ∀ {o o' : Option Outcome}, Option.Rel Eq o o' → o = o'
    | _, _, .some h => congrArg some h
    | _, _, .none => rfl
  refine ⟨houtcome hresult, hafter.2, hseen, ?_⟩
  rw [← logged_map_hidePassword, ← logged_map_hidePassword (Dialogue.Run.events _)]
  simpa [seen, Dialogue.Run.events, Function.comp_def]
    using congrArg (fun xs => logged (xs.map Prod.snd)) hseen

/-- Plans that look the same are the same with different passwords, or with none. -/
lemma eq_withPassword {plan plan' : LaunchPlan} (h : plan.hidePassword = plan'.hidePassword) :
    plan' = { plan with adminPassword := plan'.adminPassword }
      ∧ plan.adminPassword.isSome = plan'.adminPassword.isSome := by
  constructor
  · obtain ⟨⟩ := plan
    obtain ⟨⟩ := plan'
    simp only [LaunchPlan.hidePassword, LaunchPlan.mk.injEq] at h ⊢
    tauto
  · simpa [LaunchPlan.hidePassword] using
      congrArg (fun plan : LaunchPlan => plan.adminPassword.isSome) h

/-- **The password influences nothing but the session target.** -/
theorem launch_hidesPassword {plan plan' : LaunchPlan}
    (hplans : plan.hidePassword = plan'.hidePassword) (hworlds : RepliesAlike R world world')
    {memory : σ} {memory' : σ'} (hmemory : R memory memory') (clock rounds : Nat) :
    LooksTheSame (world.run (launch plan rounds) ⟨memory, clock⟩)
      (world'.run (launch plan' rounds) ⟨memory', clock⟩) := by
  obtain ⟨hplan', hsome⟩ := eq_withPassword hplans
  have halike := alike_launch plan plan'.adminPassword hsome rounds
  rw [← hplan'] at halike
  exact looksTheSame_of_alike halike hworlds ⟨hmemory, rfl⟩

end Runs

/-- A host and a cloud for which everything works, with a decryptor that finds some password. -/
def obligingHost (password : Secret) : Surroundings Unit where
  answer _ _
    | .decrypt _ => (.ok password, 200, ())
    | c => ((Rehearsal.World.answer {} c).1, 10, ())
  ping _ _ := (.answers 5 (.ok true), ())
  today _ _ := ⟨20000, 0, 0⟩

/-- Whatever password is found, the rest is the same. -/
lemma repliesAlike_obligingHost (password password' : Secret) :
    RepliesAlike (fun _ _ => True) (obligingHost password) (obligingHost password') where
  answer := by
    intro _ _ _ c c' _ hc
    rcases eq_or_openSession hc with rfl | ⟨target, target', rfl, rfl⟩
    · cases c <;> exact ⟨rfl, rfl, trivial⟩
    · have htargets : target.hidePassword = target'.hidePassword := Call.openSession.inj hc
      exact ⟨congrArg (fun target => called (.openSession target) ()) htargets, rfl, trivial⟩
  ping := fun _ _ _ _ => ⟨rfl, trivial⟩
  today := fun _ _ _ _ => rfl

/-- A plan for a password that has to be decrypted, with another one that nobody asks for. -/
def derivingPlan (spare : String) : LaunchPlan where
  instanceId := "i-1"
  createdAt := ⟨0, 0, 0⟩
  adminPassword := some ⟨spare⟩

theorem launch_hidesPassword_derived :
    (derivingPlan "a").hidePassword = (derivingPlan "b").hidePassword
      ∧ RepliesAlike (fun _ _ => True) (obligingHost ⟨"first"⟩) (obligingHost ⟨"second"⟩)
      ∧ ((obligingHost ⟨"first"⟩).run (launch (derivingPlan "a") 2) ⟨(), 0⟩).result
        = some .channelEstablished
      ∧ LooksTheSame ((obligingHost ⟨"first"⟩).run (launch (derivingPlan "a") 2) ⟨(), 0⟩)
        ((obligingHost ⟨"second"⟩).run (launch (derivingPlan "b") 2) ⟨(), 0⟩) := by
  have hworlds := repliesAlike_obligingHost ⟨"first"⟩ ⟨"second"⟩
  have hplans : (derivingPlan "a").hidePassword = (derivingPlan "b").hidePassword := rfl
  exact ⟨hplans, hworlds, by rfl, launch_hidesPassword hplans hworlds trivial 0 2⟩

end AgentLaunch.Attempt
