import AgentLaunch.Proofs.Attempt.SessionOpening
import AgentLaunch.Proofs.Attempt.Warnings
import AgentLaunch.Proofs.Text.Blank

/-!
# Whom a session is opened for

The credentials are looked for again in every pass, and yet the password is decrypted once and the
user is warned once: a pass that decrypts either opens the session or ends the attempt, and the
warning comes with the password.  Whatever happens before and after that pass says nothing about
the identity.

* `OpeningPass` — the pass that opens a session, with the sources of its host, its identity and its
  password.
* `Settles` — what settles the identity in a search, if anything does.
* `Establishment.settles` — everything else in a wait is `Neutral`.
* **`launch_settlesIdentity`** — whatever the surroundings do, the session's target comes from one
  pass and from the plan.

Requests fall into those that settle something about the identity and the *neutral* ones.  A pass
that has to be repeated is neutral, and so is every probe, so by induction on the search whatever
settles the identity comes in its last pass.  `Settles` has a constructor for a pass that opens a
session, one for material that cannot be decrypted, and one for a search that ends with nothing
settled.

The counts are then a computation on the few events of one pass.  One line needs care: the first
line of a wait begins with the name of the instance, which may be anything, but it ends in a date,
so it is not the warning (`booted_ne_identityLine`).
-/

namespace AgentLaunch.Attempt

open Dialogue

/-! ## The warning -/

/-- The warning for a configured identity that is not used, as a line. -/
def identityLine : String :=
  Progress.warning ("For password retrieval remote admin must be " ++ canonicalAdmin
    ++ ", ignoring user provided value")

lemma identityWarning_eq (plan : LaunchPlan) :
    identityWarning plan = if plan.remoteAdmin ≠ canonicalAdmin then [said identityLine] else [] :=
  rfl

/-- The first line of a wait begins with a name that may be anything, but it ends in a date. -/
lemma booted_ne_identityLine (plan : LaunchPlan) :
    plan.displayName ++ " booted at " ++ plan.createdAt.display ≠ identityLine := by
  intro h
  have hlast := congrArg (fun line => line.toList.getLast?) h
  have hidentity : identityLine.toList.getLast? = some 'e' := by decide
  have hbooted : (plan.displayName ++ " booted at " ++ plan.createdAt.display).toList.getLast?
      = some 'C' := by
    have hzone : (" UTC" : String).toList.getLast? = some 'C' := by decide
    simp only [Timestamp.display, String.toList_append, List.getLast?_append, hzone, Option.some_or]
  simp only [hidentity, hbooted] at hlast
  cases hlast

/-! ## What can be seen of an identity -/

/-- The sessions that have been opened. -/
def targets (es : List Event) : List SessionTarget :=
  es.filterMap fun x => match x.request with
    | .call (.openSession target) => some target
    | _ => none

/-- What has been given to the decryptor. -/
def materials (es : List Event) : List String :=
  es.filterMap fun x => match x.request with
    | .call (.decrypt material) => some material
    | _ => none

/-- Requests to those who know about a password. -/
def Request.SeeksCredentials : Request → Prop
  | .call (.encryptedPassword _) => True
  | .call (.decrypt _) => True
  | _ => False

/-- Requests that leave the identity open: no warning, no session, nothing decrypted, and nobody is
asked for a password that is supplied. -/
def Request.Neutral (plan : LaunchPlan) : Request → Prop
  | .log line => ¬ Warns line
  | .call (.encryptedPassword _) => plan.security = .derivedPassword
  | .call (.decrypt _) => False
  | .call (.openSession _) => False
  | _ => True

/-- All of some events leave the identity open. -/
def Neutral (plan : LaunchPlan) (es : List Event) : Prop := ∀ x ∈ es, x.request.Neutral plan

section Seen

variable {plan : LaunchPlan} {es es' : List Event}

@[simp] lemma targets_append : targets (es ++ es') = targets es ++ targets es' :=
  List.filterMap_append

@[simp] lemma materials_append : materials (es ++ es') = materials es ++ materials es' :=
  List.filterMap_append

@[simp] lemma neutral_nil : Neutral plan [] := by simp [Neutral]

@[simp] lemma neutral_cons {x : Event} :
    Neutral plan (x :: es) ↔ x.request.Neutral plan ∧ Neutral plan es := List.forall_mem_cons

@[simp] lemma neutral_append : Neutral plan (es ++ es') ↔ Neutral plan es ∧ Neutral plan es' :=
  List.forall_mem_append

lemma Neutral.targets_eq (h : Neutral plan es) : targets es = [] := by
  refine List.filterMap_eq_nil_iff.mpr fun x hx => ?_
  have hneutral := h x hx
  split
  · next hrequest =>
    rw [hrequest] at hneutral
    exact hneutral.elim
  · rfl

lemma Neutral.materials_eq (h : Neutral plan es) : materials es = [] := by
  refine List.filterMap_eq_nil_iff.mpr fun x hx => ?_
  have hneutral := h x hx
  split
  · next hrequest =>
    rw [hrequest] at hneutral
    exact hneutral.elim
  · rfl

lemma Neutral.not_warns (h : Neutral plan es) : ∀ line ∈ logged es, ¬ Warns line := by
  intro line hline
  obtain ⟨x, hx, hlog⟩ := List.mem_filterMap.mp hline
  have hneutral := h x hx
  rcases x with ⟨_ | _, _⟩
  case log =>
    obtain rfl := Option.some.inj hlog
    exact hneutral
  all_goals cases hlog

lemma Neutral.count_eq (h : Neutral plan es) : (logged es).count identityLine = 0 :=
  List.count_eq_zero.mpr fun hmem => h.not_warns _ hmem ⟨_, rfl⟩

lemma Neutral.not_seeksCredentials (h : Neutral plan es)
    (hmode : plan.security = .suppliedPassword) :
    ∀ x ∈ es, ¬ x.request.SeeksCredentials := by
  intro x hx hseeks
  have hneutral := h x hx
  cases hrequest : x.request with
  | call c =>
      rw [hrequest] at hseeks hneutral
      cases c with
      | encryptedPassword => cases hmode.symm.trans hneutral
      | decrypt => exact hneutral
      | _ => exact hseeks
  | _ =>
      rw [hrequest] at hseeks
      exact hseeks

end Seen

/-! ## The pass that opens a session -/

/-- A host that somebody can be reached at. -/
def ProperHost (host : String) : Prop :=
  host ≠ "" ∧ Text.Unpadded host ∧ host ≠ InstanceDescription.unassigned

/-- Material that is worth decrypting. -/
def ProperMaterial (material : String) : Prop := material ≠ "" ∧ Text.Unpadded material

/-- The line that tells about a session before it is opened. -/
def connectingLine (target : SessionTarget) : String :=
  "Connecting to (" ++ target.host ++ ") as " ++ target.username

/-- The events with which a session is opened. -/
def connecting (target : SessionTarget) : List Event :=
  [said (connectingLine target), called (.openSession target) ()]

/-- The pass that opens a session, and where its host, its identity and its password come from: the
host is the one that the cloud describes in this pass, and a derived password is the decryptor's
answer to the material of this pass. -/
inductive OpeningPass (plan : LaunchPlan) (target : SessionTarget) : List Event → Prop where
  | supplied {d : InstanceDescription} (hmode : plan.security = .suppliedPassword)
      (hhost : target.host = d.address plan.connectionStrategy)
      (husername : target.username = plan.remoteAdmin)
      (hpassword : plan.adminPassword = some target.password) :
      OpeningPass plan target (called (.describe plan.instanceId) (.ok d) :: connecting target)
  | derived {d : InstanceDescription} {reported : String}
      (hmode : plan.security = .derivedPassword)
      (hhost : target.host = d.address plan.connectionStrategy)
      (husername : target.username = canonicalAdmin)
      (hmaterial : ProperMaterial (Text.trim reported)) :
      OpeningPass plan target
        ([called (.describe plan.instanceId) (.ok d),
          called (.encryptedPassword plan.instanceId) (.ok (some reported)),
          called (.decrypt (Text.trim reported)) (.ok target.password)]
          ++ identityWarning plan ++ connecting target)

/-- What settles the identity, and the session that is opened then, if one is: material that cannot
be decrypted is the end of the search. -/
inductive Settles (plan : LaunchPlan) : List Event → Option SessionTarget → Prop where
  | nothing : Settles plan [] none
  | undecryptable (hmode : plan.security = .derivedPassword) {material : String}
      (hmaterial : ProperMaterial material) (e : CloudError) :
      Settles plan [called (.decrypt material) (.error e)] none
  | opened {target : SessionTarget} {pass : List Event} (hpass : OpeningPass plan target pass)
      (hhost : ProperHost target.host) (hhttps : target.useHttps = plan.useHttps) :
      Settles plan pass (some target)

section Passes

variable {plan : LaunchPlan} {deadline : Deadline} {es : List Event}

lemma properHost_address {d : InstanceDescription} {strategy : ConnectionStrategy}
    (h : d.address strategy ≠ InstanceDescription.unassigned) :
    ProperHost (d.address strategy) := by
  refine ⟨?_, ?_, h⟩ <;> unfold InstanceDescription.address at h ⊢
  all_goals
    cases hfound : (d.reported strategy).bind Text.trimmed? with
    | none => exact absurd (by rw [hfound]; rfl) h
    | some host =>
        obtain ⟨reported, -, htrimmed⟩ := Option.bind_eq_some_iff.mp hfound
        obtain ⟨rfl, hne⟩ := Text.of_trimmed?_eq_some htrimmed
        first | exact hne | exact Text.unpadded_trim reported

/-- Material is reported with padding and decrypted without it. -/
lemma properMaterial_of_trimmed {reported : Option String} {material : String}
    (h : reported.bind Text.trimmed? = some material) :
    ∃ text, reported = some text ∧ material = Text.trim text ∧ ProperMaterial material := by
  obtain ⟨text, rfl, htrimmed⟩ := Option.bind_eq_some_iff.mp h
  obtain ⟨rfl, hne⟩ := Text.of_trimmed?_eq_some htrimmed
  exact ⟨text, rfl, rfl, hne, Text.unpadded_trim text⟩

/-! ### Passes of a search -/

lemma FindsCredentials.neutral (h : FindsCredentials plan es (.ok .pending)) : Neutral plan es := by
  cases h with
  | unavailable hmode e =>
      have hline : Unlike ("Unexpected error fetching password data: " ++ e.message) :=
        Unlike.append ⟨'n', by decide, by decide⟩ _
      simpa [called, said, Request.Neutral, hmode] using hline.not_warns
  | notGenerated hmode hreported =>
      have hline : Unlike ("Waiting for password to be available. Sleeping "
          ++ secondsText plan.retryInterval ++ ".") :=
        (Unlike.append ⟨'a', by decide, by decide⟩ _).append _
      simpa [called, said, Request.Neutral, hmode] using hline.not_warns

/-- A pass that has to be repeated leaves the identity open. -/
lemma ResolutionPass.neutral (h : ResolutionPass plan es (.ok none)) : Neutral plan es := by
  cases h with
  | undescribed e =>
      have hline : Unlike ("Unable to describe " ++ plan.instanceId ++ ": " ++ e.message) :=
        ((Unlike.append ⟨'n', by decide, by decide⟩ _).append _).append _
      simpa [called, said, Request.Neutral] using hline.not_warns
  | unassigned haddress =>
      have hline : Unlike ("Invalid host " ++ InstanceDescription.unassigned
          ++ ", your host is most likely waiting for an ip address.") :=
        (Unlike.append ⟨'n', by decide, by decide⟩ _).append _
      simpa [called, said, Request.Neutral] using hline.not_warns
  | pending _ hfinds => simpa [called, Request.Neutral] using hfinds.neutral

/-- A pass that fails has decrypted in vain, or has not decrypted at all. -/
lemma ResolutionPass.settles_of_error {e : LaunchError} (h : ResolutionPass plan es (.error e)) :
    ∃ before last, es = before ++ last ∧ Neutral plan before ∧ Settles plan last none := by
  cases h with
  | @failed d _ es _ hfinds =>
      cases hfinds with
      | notSupplied =>
          exact ⟨[called (.describe plan.instanceId) (.ok d)], [], rfl,
            by simp [called, Request.Neutral], .nothing⟩
      | @undecryptable hmode reported material hreported e =>
          obtain ⟨-, -, -, hmaterial⟩ := properMaterial_of_trimmed hreported
          refine ⟨[called (.describe plan.instanceId) (.ok d),
            called (.encryptedPassword plan.instanceId) (.ok reported)], _, rfl, ?_,
            .undecryptable hmode hmaterial e⟩
          simp [called, Request.Neutral, hmode]

lemma ResolutionPass.settles_of_some {target : SessionTarget}
    (h : ResolutionPass plan es (.ok (some target))) : Settles plan es (some target) := by
  cases h with
  | opened haddress hfinds =>
      refine .opened ?_ (properHost_address haddress) rfl
      cases hfinds with
      | supplied hmode hpassword => exact .supplied hmode rfl rfl hpassword
      | derived hmode hreported password =>
          obtain ⟨text, rfl, rfl, hmaterial⟩ := properMaterial_of_trimmed hreported
          exact .derived hmode rfl rfl hmaterial

lemma Search.settles {rounds : Nat} {o : Option (Except LaunchError SessionTarget)}
    (h : Search plan deadline rounds es o) :
    ∃ before last target?, es = before ++ last ∧ Neutral plan before
      ∧ Settles plan last target? := by
  have hlook : ∀ t, (looked t).request.Neutral plan := fun _ => trivial
  induction h with
  | outOfRounds => exact ⟨[], [], none, rfl, neutral_nil, .nothing⟩
  | @late _ t _ => exact ⟨[looked t], [], none, rfl, by simp [hlook], .nothing⟩
  | @opened _ t _ _ target hpass =>
      exact ⟨[looked t], _, some target, rfl, by simp [hlook],
        (ResolutionPass.of_transcript hpass).settles_of_some⟩
  | @failed _ t _ _ _ hpass =>
      obtain ⟨before, last, rfl, hbefore, hlast⟩ :=
        (ResolutionPass.of_transcript hpass).settles_of_error
      exact ⟨looked t :: before, last, none, rfl, by simp [hlook, hbefore], hlast⟩
  | @again _ t _ es _ _ hpass _ ih =>
      obtain ⟨before, last, target?, rfl, hbefore, hlast⟩ := ih
      have hes := (ResolutionPass.of_transcript hpass).neutral
      refine ⟨looked t :: es ++ slept plan.retryInterval :: before, last, target?, by simp, ?_,
        hlast⟩
      simp [hes, hbefore, looked, slept, Request.Neutral]

/-! ### After the search -/

lemma ProbingPass.neutral {stabilized : Bool} {r : Readiness}
    (h : ProbingPass plan deadline stabilized es r) : Neutral plan es := by
  have hprobing : ∀ t reply, Neutral plan (probing deadline t reply) := by
    simp [probing, looked, pinged, Request.Neutral]
  have hstabilizing : Neutral plan (stabilizing plan) := by
    have hfirst : Unlike ("Management service responded. Waiting for it to stabilize on "
        ++ plan.displayName) := Unlike.append ⟨'a', by decide, by decide⟩ _
    have hlast : Unlike ("Management service should now be ok on " ++ plan.displayName) :=
      Unlike.append ⟨'a', by decide, by decide⟩ _
    simpa [stabilizing, said, slept, Request.Neutral] using ⟨hfirst.not_warns, hlast.not_warns⟩
  cases h with
  | silent =>
      have hline : Unlike ("Waiting for the management service to come up. Sleeping "
          ++ secondsText plan.retryInterval ++ ".") :=
        (Unlike.append ⟨'a', by decide, by decide⟩ _).append _
      simpa [hprobing, said, Request.Neutral] using hline.not_warns
  | answers => exact hprobing _ _
  | answersAgain => simp [hprobing, hstabilizing]
  | relapses =>
      have hline : Unlike ("Management service not yet up. Sleeping "
          ++ secondsText plan.retryInterval ++ ".") :=
        (Unlike.append ⟨'a', by decide, by decide⟩ _).append _
      simpa [hprobing, hstabilizing, said, Request.Neutral] using hline.not_warns

lemma Wait.neutral {rounds : Nat} {stabilized : Bool} {o : Option (Except LaunchError Unit)}
    (h : Wait plan deadline rounds stabilized es o) : Neutral plan es := by
  induction h with
  | outOfRounds => exact neutral_nil
  | late => simp [looked, called, Request.Neutral]
  | ready _ hpass =>
      have hline : Unlike ("Connected to " ++ plan.displayName ++ ".") :=
        (Unlike.append ⟨'o', by decide, by decide⟩ _).append _
      simpa [hpass.neutral, looked, said, Request.Neutral] using hline.not_warns
  | again _ hpass _ ih => simp [hpass.neutral, ih, looked, slept, Request.Neutral]

/-- **A wait is neutral around what settles the identity.** -/
lemma Establishment.settles {rounds : Nat} {o : Option (Except LaunchError SessionTarget)}
    (h : Establishment plan rounds es o) :
    ∃ start now before last after target?,
      es = opening plan start now ++ (before ++ (last ++ after))
        ∧ Neutral plan before ∧ Settles plan last target? ∧ Neutral plan after := by
  cases h with
  | @unresolved start now _ _ _ hsearch =>
      obtain ⟨before, last, target?, rfl, hbefore, hlast⟩ := hsearch.settles
      exact ⟨start, now, before, last, [], target?, by simp, hbefore, hlast, neutral_nil⟩
  | @resolved start now _ es' _ _ hsearch hwait =>
      obtain ⟨before, last, target?, rfl, hbefore, hlast⟩ := hsearch.settles
      exact ⟨start, now, before, last, es', target?, by simp, hbefore, hlast, hwait.neutral⟩

end Passes

/-! ## What settles the identity -/

section Settled

variable {plan : LaunchPlan} {target : SessionTarget} {target? : Option SessionTarget}
  {es : List Event}

lemma targets_identityWarning (plan : LaunchPlan) : targets (identityWarning plan) = [] := by
  rw [identityWarning_eq]
  split <;> rfl

lemma materials_identityWarning (plan : LaunchPlan) : materials (identityWarning plan) = [] := by
  rw [identityWarning_eq]
  split <;> rfl

lemma Settles.targets_eq (h : Settles plan es target?) : targets es = target?.toList := by
  cases h with
  | nothing => rfl
  | undecryptable => rfl
  | opened hpass =>
      cases hpass with
      | supplied => rfl
      | derived =>
          rw [targets_append, targets_append, targets_identityWarning]
          rfl

lemma Settles.materials_cases (h : Settles plan es target?) :
    materials es = [] ∨ ∃ material, materials es = [material] ∧ ProperMaterial material := by
  cases h with
  | nothing => exact .inl rfl
  | undecryptable _ hmaterial => exact .inr ⟨_, rfl, hmaterial⟩
  | opened hpass =>
      cases hpass with
      | supplied => exact .inl rfl
      | derived _ _ _ hmaterial =>
          refine .inr ⟨_, ?_, hmaterial⟩
          rw [materials_append, materials_append, materials_identityWarning]
          rfl

lemma Settles.not_seeksCredentials (h : Settles plan es target?)
    (hmode : plan.security = .suppliedPassword) : ∀ x ∈ es, ¬ x.request.SeeksCredentials := by
  cases h with
  | nothing => simp
  | undecryptable hderived => cases hmode.symm.trans hderived
  | opened hpass =>
      cases hpass with
      | supplied => simp [connecting, called, said, Request.SeeksCredentials]
      | derived hderived => cases hmode.symm.trans hderived

/-- What a plan warns of before it opens a session: an identity that is not used. -/
def warningsFor (plan : LaunchPlan) (target? : Option SessionTarget) : List String :=
  if plan.security = .derivedPassword ∧ plan.remoteAdmin ≠ canonicalAdmin ∧ target?.isSome then
    [identityLine]
  else []

lemma logged_identityWarning (plan : LaunchPlan) :
    logged (identityWarning plan)
      = if plan.remoteAdmin ≠ canonicalAdmin then [identityLine] else [] := by
  rw [identityWarning_eq]
  split <;> rfl

lemma Settles.logged_eq (h : Settles plan es target?) :
    logged es = warningsFor plan target? ++ target?.toList.map connectingLine := by
  unfold warningsFor
  cases h with
  | nothing | undecryptable =>
      rw [if_neg (by simp)]
      rfl
  | opened hpass =>
      cases hpass with
      | supplied hmode =>
          rw [if_neg (by simp [hmode])]
          rfl
      | derived hmode =>
          simp only [logged_append, logged_identityWarning, hmode, true_and, Option.isSome_some,
            and_true]
          rfl

lemma connectingLine_not_warns (target : SessionTarget) : ¬ Warns (connectingLine target) :=
  (((Unlike.append ⟨'o', by decide, by decide⟩ _).append _).append _ :
    Unlike (connectingLine target)).not_warns

end Settled

/-! ## The whole wait -/

/-- **The identity of a wait's session.** -/
structure SettlesIdentity (plan : LaunchPlan) (es : List Event) : Prop where
  /-- At most one session is opened. -/
  opensOnce : (targets es).length ≤ 1
  /-- Its target comes from the plan and from the pass that opens it. -/
  openingPass : ∀ target ∈ targets es, ∃ before pass after,
    es = before ++ (pass ++ after) ∧ OpeningPass plan target pass
  usesHttps : ∀ target ∈ targets es, target.useHttps = plan.useHttps
  properHost : ∀ target ∈ targets es, ProperHost target.host
  /-- If the password is supplied, nobody else is asked for it. -/
  asksNobody : plan.security = .suppliedPassword → ∀ x ∈ es, ¬ x.request.SeeksCredentials
  decryptsOnce : (materials es).length ≤ 1
  properMaterial : ∀ material ∈ materials es, ProperMaterial material
  /-- The user is warned once if an identity is not used, and otherwise not at all. -/
  warnsOnce : (logged es).count identityLine
    = if plan.security = .derivedPassword ∧ plan.remoteAdmin ≠ canonicalAdmin ∧ targets es ≠ []
      then 1 else 0
  /-- There is no other warning.  The first line is none, but it begins with a name that may look
  like one. -/
  warnsOfNothingElse : ∀ line ∈ (logged es).tail, Warns line → line = identityLine

section Wait

variable {plan : LaunchPlan} {es : List Event}

lemma count_warningsFor (plan : LaunchPlan) (target? : Option SessionTarget) :
    (warningsFor plan target?).count identityLine
      = if plan.security = .derivedPassword ∧ plan.remoteAdmin ≠ canonicalAdmin
          ∧ target?.toList ≠ [] then 1 else 0 := by
  have hsome : target?.toList ≠ [] ↔ target?.isSome := by cases target? <;> simp
  simp only [warningsFor, hsome]
  split
  · exact List.count_singleton_self
  · rfl

lemma count_connectingLine (target? : Option SessionTarget) :
    (target?.toList.map connectingLine).count identityLine = 0 := by
  refine List.count_eq_zero.mpr fun hmem => ?_
  obtain ⟨target, -, hline⟩ := List.mem_map.mp hmem
  exact connectingLine_not_warns target ⟨_, hline⟩

lemma Establishment.settlesIdentity {rounds : Nat}
    {o : Option (Except LaunchError SessionTarget)} (h : Establishment plan rounds es o) :
    SettlesIdentity plan es := by
  obtain ⟨start, now, before, last, after, target?, hes, hbefore, hlast, hafter⟩ := h.settles
  have htargets : targets es = target?.toList := by
    have hopening : targets (opening plan start now) = [] := rfl
    simp [hes, hopening, hbefore.targets_eq, hafter.targets_eq, hlast.targets_eq]
  have hmaterials : materials es = materials last := by
    have hopening : materials (opening plan start now) = [] := rfl
    simp [hes, hopening, hbefore.materials_eq, hafter.materials_eq]
  have hlogged : logged es = (plan.displayName ++ " booted at " ++ plan.createdAt.display)
      :: (logged before ++ (logged last ++ logged after)) := by
    rw [hes, logged_append, logged_append, logged_append]
    rfl
  have hsession : ∀ {target}, target ∈ targets es → target? = some target := by
    intro target htarget
    rw [htargets] at htarget
    exact Option.mem_toList.mp htarget
  constructor
  case opensOnce =>
    rw [htargets]
    cases target? <;> simp
  case openingPass =>
    intro target htarget
    obtain rfl := hsession htarget
    cases hlast with
    | opened hpass =>
        exact ⟨opening plan start now ++ before, last, after, by simp [hes], hpass⟩
  case usesHttps =>
    intro target htarget
    obtain rfl := hsession htarget
    cases hlast with
    | opened _ _ hhttps => exact hhttps
  case properHost =>
    intro target htarget
    obtain rfl := hsession htarget
    cases hlast with
    | opened _ hhost => exact hhost
  case asksNobody =>
    intro hmode
    have hopening : ∀ x ∈ opening plan start now, ¬ x.request.SeeksCredentials := by
      simp [opening, looked, said, dated, Request.SeeksCredentials]
    rw [hes]
    simp only [List.forall_mem_append]
    exact ⟨hopening, hbefore.not_seeksCredentials hmode, hlast.not_seeksCredentials hmode,
      hafter.not_seeksCredentials hmode⟩
  case decryptsOnce =>
    rw [hmaterials]
    rcases hlast.materials_cases with hnone | ⟨material, hone, -⟩
    · simp [hnone]
    · simp [hone]
  case properMaterial =>
    rw [hmaterials]
    rcases hlast.materials_cases with hnone | ⟨material, hone, hproper⟩
    · simp [hnone]
    · simpa [hone] using hproper
  case warnsOnce =>
    rw [hlogged, List.count_cons_of_ne (booted_ne_identityLine plan), List.count_append,
      List.count_append, hbefore.count_eq, hafter.count_eq, hlast.logged_eq, List.count_append,
      count_connectingLine, count_warningsFor, htargets, Nat.zero_add, Nat.add_zero]
  case warnsOfNothingElse =>
    rw [hlogged, List.tail_cons, hlast.logged_eq]
    intro line hline hwarns
    simp only [List.mem_append, List.mem_map] at hline
    rcases hline with hline | (hline | ⟨target, -, rfl⟩) | hline
    · exact absurd hwarns (hbefore.not_warns line hline)
    · unfold warningsFor at hline
      split at hline
      · exact List.mem_singleton.mp hline
      · cases hline
    · exact absurd hwarns (connectingLine_not_warns target)
    · exact absurd hwarns (hafter.not_warns line hline)

/-- **The identity is settled once in an attempt.**  Whatever the surroundings do, the target of the
session comes from the plan and from the pass that opens it: a supplied password goes with the
configured identity, and nobody is asked for it; a derived one goes with the canonical identity, and
it is what the decryptor says to the material of that pass.  Whatever is decrypted is proper
material, once in an attempt, and the user is warned once of an identity that is not used.  After
the wait nobody is asked again, and nothing is warned of but what a script or a channel says. -/
theorem launch_settlesIdentity {σ : Type} (world : Surroundings σ) (plan : LaunchPlan)
    (rounds : Nat) (scene : Scene σ) :
    ∃ waited rest, (world.run (launch plan rounds) scene).events = waited ++ rest
      ∧ waited = (world.run (establish plan rounds).run scene).events
      ∧ SettlesIdentity plan waited ∧ (∀ x ∈ rest, ¬ x.request.Identifies) ∧ WarnsNot rest := by
  have hwaited : SettlesIdentity plan (world.run (establish plan rounds).run scene).events :=
    (transcript_establish (world.run_transcript _ scene)).settlesIdentity
  cases hresult : (world.run (establish plan rounds).run scene).result with
  | none =>
      refine ⟨_, [], ?_, rfl, hwaited, nofun, nofun⟩
      rw [launch_eq, Surroundings.run, run_bind_of_unfinished hresult, List.append_nil]
      rfl
  | some r =>
      have hrest := world.run_transcript (conclude plan r)
        (world.run (establish plan rounds).run scene).after
      obtain ⟨outcome, hconcludes, -⟩ := transcript_conclude hrest
      refine ⟨_, _, ?_, rfl, hwaited, hconcludes.identifiesNothing, hconcludes.warnsNot⟩
      rw [launch_eq, Surroundings.run, run_bind_of_result hresult]
      exact List.map_append

-- Blank material at first and padded material later, for a user who is not the canonical one.
example :
    let plan : LaunchPlan :=
      { instanceId := "i-1", createdAt := ⟨0, 0, 0⟩, security := .derivedPassword,
        remoteAdmin := "builder", launchTimeout := 60000 }
    let script : Rehearsal.Script :=
      { credentials := [some ⟨.ok (some " "), 0⟩, some ⟨.ok (some " KEY\n"), 0⟩] }
    let es := (Rehearsal.rehearse ⟨0, 0, 0⟩ (establish plan 9).run ⟨{ script }, 0⟩).events
    targets es = [⟨"10.0.0.5", "Administrator", ⟨"plain-KEY"⟩, false⟩]
      ∧ materials es = ["KEY"] := by
  exact ⟨rfl, rfl⟩

end Wait

end AgentLaunch.Attempt
