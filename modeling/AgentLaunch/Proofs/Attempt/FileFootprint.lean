import AgentLaunch.Proofs.Attempt.InitMarker

/-!
# What an attempt leaves behind

An attempt writes three files, all in its working directory: the init script, the marker of its
success, and the agent.  Everything else on the remote host stays as it was, and so do the script
and the marker if there is no script or the marker is there.  An attempt that succeeds leaves the
agent that it has fetched, so doing it again changes nothing.

The three paths are different in every directory, since a name determines the path that it is joined
to.  So what happens to one of them can be followed without a look at the other two.

* `Footprint` — what an attempt does to the files, told by the files before and after it.
* `Establishes` — the course of an attempt that succeeds.
* **`launch_footprint`** — every attempt leaves this footprint, and a repeated one leaves no other.

The proof goes through the events.  In surroundings that keep the files, a run leaves the files that
its events tell, and a path that is never uploaded to is as it was (`afterAll_of_not_uploads`).  For
the statements about any ending nothing more is needed.  For an attempt that succeeds, `Establishes`
takes its events apart around the upload of the agent, and the files are computed from the parts.

Doing it again is a consequence of the footprint and of nothing else (`Footprint.again`): the first
success leaves a marker if there is anything to run, so the second one finds the script and the
marker undisturbed, and writes the agent over with the same bytes.
-/

namespace AgentLaunch.Attempt

open Dialogue

/-- The path of the init script in a directory. -/
def initPath (dir : WorkDir) : String := dir.join WorkDir.initScriptFile

/-- The path of the agent in a directory. -/
def agentPath (dir : WorkDir) : String := dir.join WorkDir.agentFile

/-- There is no init script, or it is blank. -/
def NoInitScript (plan : LaunchPlan) : Prop :=
  ∀ script, plan.initScript = some script → Text.isBlankText script = true

/-- The agents that have been fetched. -/
def fetched (es : List Event) : List Bytes :=
  es.filterMap fun
    | ⟨.call (.fetch _), .ok payload⟩ => some payload
    | _ => none

/-- **What an attempt does to the files.** -/
structure Footprint (plan : LaunchPlan) (dir : WorkDir) (before after : Files) (es : List Event)
    (o : Option Outcome) : Prop where
  /-- However it ends, only three files can be different. -/
  confined : ∀ path, path ≠ initPath dir → path ≠ markerPath dir → path ≠ agentPath dir →
    after path = before path
  /-- Two of them are left alone if there is nothing to run, or it has succeeded before. -/
  undisturbed : NoInitScript plan ∨ before.Present (markerPath dir) →
    after (initPath dir) = before (initPath dir) ∧ after (markerPath dir) = before (markerPath dir)
  /-- An attempt that succeeds has fetched one agent, and leaves it. -/
  delivered : o = some .channelEstablished →
    ∃ payload, fetched es = [payload] ∧ after (agentPath dir) = some payload
  /-- If there was no marker, it leaves the init script and a marker. -/
  initialized : o = some .channelEstablished → ∀ script, plan.initScript = some script →
    Text.isBlankText script = false → ¬ before.Present (markerPath dir) →
    after (initPath dir) = some (Utf8.encode script)
      ∧ after (markerPath dir) = some (Utf8.encode WorkDir.initMarkerText)
  /-- If there is something to run, there is a marker, whether or not it was there before. -/
  marked : o = some .channelEstablished → ¬ NoInitScript plan → after.Present (markerPath dir)

/-- A second attempt like the first one, if both succeed, finds everything as it leaves it. -/
lemma Footprint.again {plan : LaunchPlan} {dir : WorkDir} {before after after' : Files}
    {es es' : List Event} {o o' : Option Outcome} (h : Footprint plan dir before after es o)
    (h' : Footprint plan dir after after' es' o') (ho : o = some .channelEstablished)
    (ho' : o' = some .channelEstablished) (hfetched : fetched es' = fetched es) :
    after' = after := by
  have hidle : NoInitScript plan ∨ after.Present (markerPath dir) :=
    or_iff_not_imp_left.mpr (h.marked ho)
  obtain ⟨hinit, hmarker⟩ := h'.undisturbed hidle
  obtain ⟨payload, hpayload, hagent⟩ := h.delivered ho
  obtain ⟨payload', hpayload', hagent'⟩ := h'.delivered ho'
  obtain rfl : payload' = payload := by simpa [hpayload, hpayload'] using hfetched
  funext path
  by_cases hpath : path = initPath dir ∨ path = markerPath dir ∨ path = agentPath dir
  · rcases hpath with rfl | rfl | rfl
    · exact hinit
    · exact hmarker
    · rw [hagent, hagent']
  · simp only [not_or] at hpath
    exact h'.confined path hpath.1 hpath.2.1 hpath.2.2

/-! ## The files after some events -/

section Files

variable {files : Files} {es : List Event} {dir : WorkDir} {path : String}

lemma Files.afterAll_append (files : Files) (es es' : List Event) :
    files.afterAll (es ++ es') = (files.afterAll es).afterAll es' :=
  List.foldl_append

/-- A file that is not uploaded stays as it is. -/
lemma Files.afterAll_of_not_uploads (h : ¬ Files.Uploads es path) :
    files.afterAll es path = files path := by
  induction es generalizing files with
  | nil => rfl
  | cons x es ih =>
      have hrest : ¬ Files.Uploads es path :=
        fun ⟨contents, hput⟩ => h ⟨contents, List.mem_cons_of_mem x hput⟩
      rw [Files.afterAll_cons, ih hrest]
      by_cases hx : ∃ path' contents, x = called (.putFile path' contents) (.ok ())
      · obtain ⟨path', contents, rfl⟩ := hx
        have hne : path ≠ path' := by
          rintro rfl
          exact h ⟨contents, List.mem_cons_self⟩
        rw [Files.after_putFile_ok, Function.update_of_ne hne]
      · rw [files.after_of_not_upload fun path' contents heq => hx ⟨path', contents, heq⟩]

lemma Files.afterAll_of_preliminary (h : ∀ x ∈ es, Preliminary dir x) :
    files.afterAll es = files :=
  funext fun _ => Files.afterAll_of_not_uploads fun ⟨_, hput⟩ => h _ hput

end Files

/-! ## Visits -/

section Visits

variable {plan : LaunchPlan} {dir : WorkDir} {files : Files} {es : List Event}

lemma effectiveInitScript_eq_some_iff {script : String} : plan.effectiveInitScript = some script
    ↔ plan.initScript = some script ∧ Text.isBlankText script = false := by
  rw [LaunchPlan.effectiveInitScript, Option.filter_eq_some_iff, Bool.not_eq_true']

lemma noInitScript_iff : NoInitScript plan ↔ plan.effectiveInitScript = none := by
  simp [NoInitScript, Option.eq_none_iff_forall_ne_some, effectiveInitScript_eq_some_iff]

lemma initPath_ne_markerPath (dir : WorkDir) : initPath dir ≠ markerPath dir :=
  fun h => absurd (WorkDir.eq_of_join_eq h) (by decide)

lemma initPath_ne_agentPath (dir : WorkDir) : initPath dir ≠ agentPath dir :=
  fun h => absurd (WorkDir.eq_of_join_eq h) (by decide)

lemma markerPath_ne_agentPath (dir : WorkDir) : markerPath dir ≠ agentPath dir :=
  fun h => absurd (WorkDir.eq_of_join_eq h) (by decide)

lemma InitCourse.eq_nil {goesOn : Bool} (h : InitCourse plan dir es goesOn)
    (hnone : plan.effectiveInitScript = none) : es = [] := by
  cases h with
  | notConfigured => rfl
  | unknown hscript => simp [hnone] at hscript
  | alreadyDone hscript => simp [hnone] at hscript
  | completed hscript => simp [hnone] at hscript
  | failed hscript => simp [hnone] at hscript

/-- With nothing to run, nobody is told that there is no marker. -/
lemma VisitCourse.not_toldMissing {o : Option Bool} (h : VisitCourse plan dir es o)
    (htruthful : files.Truthful es) (hidle : NoInitScript plan ∨ files.Present (markerPath dir)) :
    called (.fileExists (markerPath dir)) (.ok false) ∉ es := by
  intro htold
  rcases hidle with hnone | hpresent
  · rw [noInitScript_iff] at hnone
    cases h with
    | early hbefore => exact hbefore _ htold
    | stopped hbefore hmiddle hafter =>
        rw [hmiddle.eq_nil hnone, List.append_nil] at htold
        exact (List.mem_append.mp htold).elim (hbefore _) (hafter _)
    | prepared hbefore hmiddle hafter =>
        rw [hmiddle.eq_nil hnone, List.append_nil] at htold
        exact (List.mem_append.mp htold).elim (hbefore _) (hafter _)
  · have hfound := htruthful.found_of_present hpresent htold
    simp at hfound

/-- A visit that leaves the init script alone uploads neither it nor a marker. -/
lemma VisitCourse.not_uploads {o : Option Bool} (h : VisitCourse plan dir es o)
    (hquiet : ∀ x ∈ es, ¬ RunsInit dir x) :
    ¬ Files.Uploads es (initPath dir) ∧ ¬ Files.Uploads es (markerPath dir) := by
  constructor
  · rintro ⟨contents, hput⟩
    exact hquiet _ hput (.inl ⟨contents, rfl⟩)
  · rintro ⟨contents, hput⟩
    rcases uploads_visitCourse h hput with hpath | hpath | ⟨-, hsucceeds⟩
    · exact initPath_ne_markerPath dir hpath.symm
    · exact markerPath_ne_agentPath dir hpath
    · obtain ⟨before, process, output, after, rfl, -⟩ := hsucceeds
      exact hquiet (called (.execute (initCommand dir) none) (.ok process)) (by simp) (.inr rfl)

/-- A visit uploads three files at most. -/
lemma VisitCourse.afterAll_of_ne {o : Option Bool} (h : VisitCourse plan dir es o) {path : String}
    (hinit : path ≠ initPath dir) (hmarker : path ≠ markerPath dir)
    (hagent : path ≠ agentPath dir) : files.afterAll es path = files path := by
  refine Files.afterAll_of_not_uploads ?_
  rintro ⟨contents, hput⟩
  rcases uploads_visitCourse h hput with hpath | hpath | ⟨hpath, -⟩
  · exact hinit hpath
  · exact hagent hpath
  · exact hmarker hpath

/-- With nothing to run, a visit leaves the init script and its marker alone. -/
lemma VisitCourse.afterAll_of_idle {o : Option Bool} (h : VisitCourse plan dir es o)
    (htruthful : files.Truthful es) (hidle : NoInitScript plan ∨ files.Present (markerPath dir)) :
    files.afterAll es (initPath dir) = files (initPath dir)
      ∧ files.afterAll es (markerPath dir) = files (markerPath dir) := by
  have hquiet := not_runsInit_visitCourse h (h.not_toldMissing htruthful hidle)
  exact (h.not_uploads hquiet).imp Files.afterAll_of_not_uploads Files.afterAll_of_not_uploads

end Visits

/-! ## Attempts that succeed -/

/-- The course of an attempt that succeeds: once the init script has been seen to, the agent is
fetched and uploaded, and no file is touched before or after that. -/
def Establishes (plan : LaunchPlan) (dir : WorkDir) (payload : Bytes) (es : List Event) : Prop :=
  ∃ before middle after,
    es = before ++ middle
        ++ (called (.fetch WorkDir.agentFile) (.ok payload)
          :: called (.putFile (agentPath dir) payload) (.ok ()) :: after)
      ∧ (∀ x ∈ before, Preliminary dir x) ∧ InitCourse plan dir middle true
      ∧ ∀ x ∈ after, Preliminary dir x

section Established

variable {plan : LaunchPlan} {rounds : Nat} {dir : WorkDir} {payload : Bytes} {files : Files}
  {es : List Event}

/-- How an agent is started that has been uploaded. -/
def started (plan : LaunchPlan) (dir : WorkDir) (agent : ProcessId) : List Event :=
  [said (WorkDir.agentFile ++ " sent remotely. Bootstrapping it"),
    said ("Launching agent: " ++ (AgentCommand.assemble plan dir).line),
    called (.execute (AgentCommand.assemble plan dir).line (some agentLimit)) (.ok agent)]

lemma preliminary_started (agent : ProcessId) :
    ∀ x ∈ started plan dir agent, Preliminary dir x := by
  simp [started, Preliminary, called, said]

lemma UsesSession.establishes {outcome : Outcome} (h : UsesSession plan es outcome)
    (houtcome : outcome = .channelEstablished) :
    ∃ payload, Establishes plan (WorkDir.resolve plan.tmpDir) payload es := by
  cases h with
  | notProvisioned => cases houtcome
  | @provisioned a es es' r hdone hhand =>
      cases r with
      | error => cases houtcome
      | ok =>
          obtain ⟨_, _, hprepare, ⟨-, rfl⟩, rfl⟩ := hdone.append_cases
          obtain ⟨before, middle, hbefore, hmiddle, rfl⟩ := hprepare.append_cases
          refine ⟨a.payload, before, middle,
            started plan (WorkDir.resolve plan.tmpDir) a.agent ++ es',
            ?_, hbefore.forall_mem (preliminary_directoryScript _),
            initCourse_of_completes hmiddle, ?_⟩
          · rw [farewellOf, List.append_nil, List.append_assoc]
            rfl
          · exact List.forall_mem_append.mpr ⟨preliminary_started _, preliminary_handsOver hhand⟩

lemma LaunchCourse.establishes
    (h : LaunchCourse plan rounds es (some .channelEstablished)) :
    ∃ payload, Establishes plan (WorkDir.resolve plan.tmpDir) payload es := by
  generalize ho : some Outcome.channelEstablished = o at h
  cases h with
  | unfinished => cases ho
  | concluded hwait hconcludes =>
      obtain rfl := Option.some.inj ho
      cases hconcludes with
      | connected huse =>
          obtain ⟨payload, before, middle, after, rfl, hbefore, hmiddle, hafter⟩ :=
            huse.establishes rfl
          exact ⟨payload, _ ++ before, middle, after, by simp,
            List.forall_mem_append.mpr ⟨preliminary_establishment hwait, hbefore⟩, hmiddle, hafter⟩

lemma fetched_append (es es' : List Event) : fetched (es ++ es') = fetched es ++ fetched es' :=
  List.filterMap_append

lemma fetched_of_not_bringsAgent (h : ∀ x ∈ es, ¬ BringsAgent dir x) : fetched es = [] := by
  refine List.filterMap_eq_nil_iff.mpr fun x hx => ?_
  split
  · exact absurd (.inl ⟨_, rfl⟩) (h _ hx)
  · rfl

lemma fetched_of_preliminary (h : ∀ x ∈ es, Preliminary dir x) : fetched es = [] :=
  fetched_of_not_bringsAgent fun x hx => (h x hx).not_bringsAgent

/-- Such an attempt fetches one agent. -/
lemma Establishes.fetched_eq (h : Establishes plan dir payload es) : fetched es = [payload] := by
  obtain ⟨before, middle, after, rfl, hbefore, hmiddle, hafter⟩ := h
  have hbrings : fetched (called (.fetch WorkDir.agentFile) (.ok payload)
      :: called (.putFile (agentPath dir) payload) (.ok ()) :: after) = payload :: fetched after :=
    rfl
  rw [fetched_append, fetched_append, hbrings, fetched_of_preliminary hbefore,
    fetched_of_not_bringsAgent (not_bringsAgent_initCourse hmiddle), fetched_of_preliminary hafter]
  rfl

/-- The output of a command leaves all files as they are. -/
lemma afterAll_shown (files : Files) (process : ProcessId) (output : Option CommandOutput) :
    files.afterAll (shown process output) = files := by
  have hshown : ∀ x ∈ shown process output,
      ∀ path contents, x ≠ called (.putFile path contents) (.ok ()) := by
    cases output <;> simp [shown, outputScript, Step.event, called, said, or_imp, forall_and]
  funext path
  refine Files.afterAll_of_not_uploads ?_
  rintro ⟨contents, hput⟩
  exact hshown _ hput path contents rfl

/-- A run of the init script that succeeds leaves the script and its marker. -/
lemma afterAll_initRunScript {script : String} {process : ProcessId}
    {output : Option CommandOutput} (h : Completes (initRunScript dir script process output) es) :
    files.afterAll es
      = Function.update
          (Function.update files (initPath dir) (some (Utf8.encode script)))
          (markerPath dir) (some (Utf8.encode WorkDir.initMarkerText)) := by
  obtain ⟨-, rfl⟩ := h
  have hevents : (initRunScript dir script process output).map Step.event
      = [said "Executing init script",
          called (.putFile (initPath dir) (Utf8.encode script)) (.ok ()),
          called (.execute (initCommand dir) none) (.ok process)]
        ++ (shown process output
        ++ [called (.wait process) (.ok 0),
          called (.putFile (markerPath dir) (Utf8.encode WorkDir.initMarkerText)) (.ok ()),
          said "init script ran successfully"]) := by
    simp [initRunScript, initExecutionScript, markerScript, shown, awaitStep, Step.event,
      initCommand, initPath, markerPath]
  rw [hevents, Files.afterAll_append, Files.afterAll_append, afterAll_shown]
  rfl

/-- Where there is a script and no marker, the middle part leaves both. -/
lemma afterAll_initCourse {script : String} (h : InitCourse plan dir es true)
    (hscript : plan.effectiveInitScript = some script) (htruthful : files.Truthful es)
    (hmissing : ¬ files.Present (markerPath dir)) :
    files.afterAll es
      = Function.update
          (Function.update files (initPath dir) (some (Utf8.encode script)))
          (markerPath dir) (some (Utf8.encode WorkDir.initMarkerText)) := by
  cases h with
  | notConfigured hnone => simp [hnone] at hscript
  | alreadyDone => exact absurd ((htruthful.1 _ true rfl).mp rfl) hmissing
  | completed hscript' hrun =>
      obtain rfl := Option.some.inj (hscript'.symm.trans hscript)
      have hquestion : files.after
          (called (.fileExists (dir.join WorkDir.initMarkerFile)) (.ok false)) = files := rfl
      rw [Files.afterAll_cons, hquestion]
      exact afterAll_initRunScript hrun

/-- An attempt that succeeds leaves the agent, and otherwise what its middle part leaves. -/
lemma Establishes.afterAll_eq (h : Establishes plan dir payload es)
    (htruthful : files.Truthful es) :
    ∃ middle, InitCourse plan dir middle true ∧ files.Truthful middle
      ∧ files.afterAll es
        = Function.update (files.afterAll middle) (agentPath dir) (some payload) := by
  obtain ⟨before, middle, after, rfl, hbefore, hmiddle, hafter⟩ := h
  rw [List.append_assoc, Files.truthful_append_iff, Files.afterAll_of_preliminary hbefore,
    Files.truthful_append_iff] at htruthful
  refine ⟨middle, hmiddle, htruthful.2.1, ?_⟩
  rw [Files.afterAll_append, Files.afterAll_append, Files.afterAll_of_preliminary hbefore]
  exact Files.afterAll_of_preliminary hafter

lemma Establishes.afterAll_agentPath (h : Establishes plan dir payload es)
    (htruthful : files.Truthful es) : files.afterAll es (agentPath dir) = some payload := by
  obtain ⟨middle, -, -, hfiles⟩ := h.afterAll_eq htruthful
  rw [hfiles, Function.update_self]

lemma Establishes.afterAll_of_missing {script : String} (h : Establishes plan dir payload es)
    (htruthful : files.Truthful es) (hscript : plan.effectiveInitScript = some script)
    (hmissing : ¬ files.Present (markerPath dir)) :
    files.afterAll es (initPath dir) = some (Utf8.encode script)
      ∧ files.afterAll es (markerPath dir) = some (Utf8.encode WorkDir.initMarkerText) := by
  obtain ⟨middle, hmiddle, htruths, hfiles⟩ := h.afterAll_eq htruthful
  rw [hfiles, afterAll_initCourse hmiddle hscript htruths hmissing]
  simp [initPath_ne_agentPath, markerPath_ne_agentPath, initPath_ne_markerPath]

end Established

/-! ## Attempts in their surroundings -/

section Surroundings

variable {σ : Type} {world : Surroundings σ} {files : σ → Files}

/-- **An attempt leaves this footprint.** -/
lemma footprint_launch (hkeeps : KeepsFiles world files) (plan : LaunchPlan) (rounds : Nat)
    (scene : Scene σ) :
    Footprint plan (WorkDir.resolve plan.tmpDir) (files scene.memory)
      (files (world.run (launch plan rounds) scene).after.memory)
      (world.run (launch plan rounds) scene).events
      (world.run (launch plan rounds) scene).result := by
  obtain ⟨hafter, htruthful⟩ := hkeeps.run (launch plan rounds) scene
  have ht := world.run_transcript (launch plan rounds) scene
  have hvisit := visitCourse_launch ht
  generalize world.run (launch plan rounds) scene = run at *
  have hestablishes : run.result = some .channelEstablished →
      ∃ payload, Establishes plan (WorkDir.resolve plan.tmpDir) payload run.events := by
    intro hresult
    rw [hresult] at ht
    exact (transcript_launch ht).establishes
  generalize WorkDir.resolve plan.tmpDir = dir at *
  have hidle := hvisit.afterAll_of_idle htruthful
  have hinitialized : run.result = some .channelEstablished → ∀ script,
      plan.effectiveInitScript = some script →
      ¬ (files scene.memory).Present (markerPath dir) →
      (files scene.memory).afterAll run.events (initPath dir) = some (Utf8.encode script)
        ∧ (files scene.memory).afterAll run.events (markerPath dir)
          = some (Utf8.encode WorkDir.initMarkerText) := by
    intro hresult script hscript
    obtain ⟨payload, hes⟩ := hestablishes hresult
    exact hes.afterAll_of_missing htruthful hscript
  rw [hafter]
  refine ⟨fun path => hvisit.afterAll_of_ne, hidle, ?_, ?_, ?_⟩
  · intro hresult
    obtain ⟨payload, hes⟩ := hestablishes hresult
    exact ⟨payload, hes.fetched_eq, hes.afterAll_agentPath htruthful⟩
  · intro hresult script hscript hnonblank
    exact hinitialized hresult script (effectiveInitScript_eq_some_iff.mpr ⟨hscript, hnonblank⟩)
  · intro hresult hconfigured
    by_cases hpresent : (files scene.memory).Present (markerPath dir)
    · rw [Files.Present, (hidle (.inr hpresent)).2]
      exact hpresent
    · rw [noInitScript_iff] at hconfigured
      obtain ⟨script, hscript⟩ := Option.ne_none_iff_exists'.mp hconfigured
      rw [Files.Present, (hinitialized hresult script hscript hpresent).2]
      rfl

/-- **What every attempt does to the files, and that doing it again does nothing.**  However the
surroundings behave, as long as only uploads change the files. -/
theorem launch_footprint (hkeeps : KeepsFiles world files) (plan : LaunchPlan) (rounds : Nat)
    (scene : Scene σ) :
    Footprint plan (WorkDir.resolve plan.tmpDir) (files scene.memory)
        (files (world.run (launch plan rounds) scene).after.memory)
        (world.run (launch plan rounds) scene).events
        (world.run (launch plan rounds) scene).result
      ∧ ∀ (rounds' : Nat) (next : Scene σ),
        files next.memory = files (world.run (launch plan rounds) scene).after.memory →
        (world.run (launch plan rounds) scene).result = some .channelEstablished →
        (world.run (launch plan rounds') next).result = some .channelEstablished →
        fetched (world.run (launch plan rounds') next).events
          = fetched (world.run (launch plan rounds) scene).events →
        files (world.run (launch plan rounds') next).after.memory
          = files (world.run (launch plan rounds) scene).after.memory := by
  refine ⟨footprint_launch hkeeps plan rounds scene, ?_⟩
  intro rounds' next hnext hresult hresult' hfetched
  have hfirst := footprint_launch hkeeps plan rounds scene
  have hagain := footprint_launch hkeeps plan rounds' next
  rw [hnext] at hagain
  exact hfirst.again hagain hresult hresult' hfetched

/-- Two attempts on a host without any files, the second of which finds the marker. -/
theorem launch_footprint_rehearsed :
    let world := Rehearsal.surroundings ⟨0, 0, 0⟩
    let scene : Scene Rehearsal.World := { memory := {} }
    let first := world.run (launch scriptedPlan 5) scene
    let second := world.run (launch scriptedPlan 5) first.after
    KeepsFiles world Rehearsal.World.remoteFiles
      ∧ first.result = some .channelEstablished ∧ second.result = some .channelEstablished
      ∧ Footprint scriptedPlan (WorkDir.resolve none) scene.memory.remoteFiles
          first.after.memory.remoteFiles first.events first.result
      ∧ second.after.memory.remoteFiles = first.after.memory.remoteFiles := by
  intro world scene first second
  have hkeeps : KeepsFiles world Rehearsal.World.remoteFiles :=
    Rehearsal.keepsFiles_surroundings _
  have hfirst : first.result = some .channelEstablished := by decide +kernel
  have hsecond : second.result = some .channelEstablished := by decide +kernel
  have hfetched : fetched second.events = fetched first.events := by decide +kernel
  obtain ⟨hfootprint, hagain⟩ := launch_footprint hkeeps scriptedPlan 5 scene
  exact ⟨hkeeps, hfirst, hsecond, hfootprint, hagain 5 first.after rfl hfirst hsecond hfetched⟩

end Surroundings

end AgentLaunch.Attempt
