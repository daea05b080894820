import AgentLaunch.Proofs.Attempt.Initialization
import AgentLaunch.Proofs.Rehearsal.Files

/-!
# The marker of the init script

The marker in a working directory is the only memory that visits to a remote host have of each
other.  Over any history of visits it stands for one thing, that the init script has succeeded in
this directory, and it keeps the script from running again.

* `InitSucceeds` — the script has exited with zero, its output has been read to the end, and the
  marker has been uploaded.
* `History` — visits one after another, with nobody else touching the files.
* `MarkerHistory` — what the marker of a directory means over a history.
* **`history_marker`** — the marker means that over every history.

Within one visit the marker is the last thing that is written on behalf of the script, so a visit
that uploads it has run the script with success.  If a visit is told that the marker is missing, it
cannot bring the agent without having uploaded the marker first (`MarksFirst`).

Over a history the proof is by induction on the visits.  The invariant is that a file is there after
some visits exactly if it was there at the beginning or one of them has uploaded it
(`History.present_iff`), for which the files must not change between two visits.  Since the answers
about files are true, a visit that runs the script starts without a marker, and none of the visits
before it has left one.  `history_marker_rehearsed` has a first visit whose script fails.
-/

namespace AgentLaunch.Attempt

open Dialogue

/-- The path of the marker in a directory. -/
def markerPath (dir : WorkDir) : String := dir.join WorkDir.initMarkerFile

/-- What is seen of a command's output when it is read to its end; none if it cannot be claimed. -/
def shown (process : ProcessId) (output : Option CommandOutput) : List Event :=
  (outputScript process output).map Step.event

/-- **The init script has succeeded** in a directory: it has exited with zero, its output has been
read to the end, and the marker has been uploaded. -/
def InitSucceeds (dir : WorkDir) (es : List Event) : Prop :=
  ∃ before process output after,
    es = before
        ++ called (.execute (initCommand dir) none) (.ok process) :: (shown process output
          ++ [called (.wait process) (.ok 0),
            called (.putFile (markerPath dir) (Utf8.encode WorkDir.initMarkerText)) (.ok ())])
        ++ after
      ∧ ∀ text ∈ output, text.failure = none

/-- An event that uploads the init script or runs it. -/
def RunsInit (dir : WorkDir) (x : Event) : Prop :=
  (∃ contents, x.request = .call (.putFile (dir.join WorkDir.initScriptFile) contents))
    ∨ x.request = .call (.execute (initCommand dir) none)

/-- An event that fetches the agent or uploads it. -/
def BringsAgent (dir : WorkDir) (x : Event) : Prop :=
  (∃ name, x.request = .call (.fetch name))
    ∨ ∃ contents, x.request = .call (.putFile (dir.join WorkDir.agentFile) contents)

/-! ## Within one visit -/

section Visits

variable {plan : LaunchPlan} {dir : WorkDir} {es : List Event} {x : Event}

lemma InitSucceeds.uploads (h : InitSucceeds dir es) : Files.Uploads es (markerPath dir) := by
  obtain ⟨before, process, output, after, rfl, -⟩ := h
  exact ⟨Utf8.encode WorkDir.initMarkerText, by simp⟩

lemma InitSucceeds.append (h : InitSucceeds dir es) (before after : List Event) :
    InitSucceeds dir (before ++ es ++ after) := by
  obtain ⟨before', process, output, after', rfl, houtput⟩ := h
  exact ⟨before ++ before', process, output, after' ++ after, by simp, houtput⟩

lemma Subsequent.not_runsInit (h : Subsequent dir x) : ¬ RunsInit dir x := by
  rintro (⟨contents, hx⟩ | hx)
  · rw [Subsequent, hx] at h
    have hname := WorkDir.eq_of_join_eq h
    simp [WorkDir.initScriptFile, WorkDir.agentFile] at hname
  · rw [Subsequent, hx] at h
    exact h rfl

lemma Preliminary.not_bringsAgent (h : Preliminary dir x) : ¬ BringsAgent dir x := by
  rintro (⟨name, hx⟩ | ⟨contents, hx⟩)
  · rw [Preliminary, hx] at h
    exact h
  · rw [Preliminary, hx] at h
    exact h

/-- An event of the init script's run, up to its end. -/
def Executes (dir : WorkDir) (x : Event) : Prop :=
  match x.request with
  | .log _ => True
  | .call (.putFile path _) => path = dir.join WorkDir.initScriptFile
  | .call (.execute _ none) => True
  | .call (.takeStdout _) => True
  | .call (.readOutput _) => True
  | .call (.wait _) => True
  | _ => False

lemma executes_initExecutionScript (script : String) (process : ProcessId)
    (output : Option CommandOutput) :
    ∀ step ∈ initExecutionScript dir script process output, step.Always (Executes dir) := by
  cases output <;>
    simp [initExecutionScript, outputScript, awaitStep, Step.Always, Executes, called, said,
      or_imp, forall_and]

lemma Executes.not_bringsAgent (h : Executes dir x) : ¬ BringsAgent dir x := by
  rintro (⟨name, hx⟩ | ⟨contents, hx⟩)
  · rw [Executes, hx] at h
    exact h
  · rw [Executes, hx] at h
    have hname := WorkDir.eq_of_join_eq h
    simp [WorkDir.initScriptFile, WorkDir.agentFile] at hname

/-- Until the init script has been run, nothing is uploaded but the script. -/
lemma path_of_executes {path : String} {contents : Bytes}
    (hes : ∀ x ∈ es, Executes dir x) (hput : called (.putFile path contents) (.ok ()) ∈ es) :
    path = dir.join WorkDir.initScriptFile :=
  hes _ hput

/-- A run of the init script that has come to its end. -/
lemma initSucceeds_of_completes {script : String} {process : ProcessId}
    {output : Option CommandOutput}
    (h : Completes (initRunScript dir script process output) es) : InitSucceeds dir es := by
  obtain ⟨hgood, rfl⟩ := h
  refine ⟨[said "Executing init script",
      called (.putFile (dir.join WorkDir.initScriptFile) (Utf8.encode script)) (.ok ())],
    process, output, [said "init script ran successfully"], ?_, ?_⟩
  · simp [initRunScript, initExecutionScript, markerScript, shown, awaitStep, Step.event,
      initCommand, markerPath]
  · rintro text rfl
    have hread : .ask (.readOutput process) text
        (fun output => output.failure.map fun failure => ⟨Progress.linesOf output, .io failure⟩)
        ∈ initRunScript dir script process (some text) := by
      simp [initRunScript, initExecutionScript, outputScript]
    have hsucceeds := hgood _ hread
    simpa [Step.Succeeds] using hsucceeds

/-- A run of the init script that has stopped has uploaded nothing but the script. -/
lemma path_of_stops {script : String} {process : ProcessId} {output : Option CommandOutput}
    {e : LaunchError} (h : Stops (initRunScript dir script process output) es e) {path : String}
    {contents : Bytes} (hput : called (.putFile path contents) (.ok ()) ∈ es) :
    path = dir.join WorkDir.initScriptFile := by
  have hexecutes : ∀ step ∈ initExecutionScript dir script process output,
      step.Always (Executes dir) := executes_initExecutionScript script process output
  rcases h.append_cases with hstop | ⟨es₁, es₂, hdone, hstop, rfl⟩
  · exact path_of_executes (hstop.forall_mem (fun _ => trivial) hexecutes) hput
  · rcases List.mem_append.mp hput with hput | hput
    · exact path_of_executes (hdone.forall_mem hexecutes) hput
    · -- It is the marker that could not be uploaded.
      cases hstop with
      | here reply hs =>
          rcases reply with error | _
          · obtain rfl := Option.some.inj hs
            simp [called] at hput
          · simp [failing] at hs
      | later hstep hstop =>
          rcases hstop with _ | ⟨-, hstop⟩
          exact absurd hstop not_stops_nil

/-- In the part that is about the init script, nothing is uploaded but the script and its marker,
and the marker only when the script has succeeded. -/
lemma uploads_initCourse {goesOn : Bool} (h : InitCourse plan dir es goesOn) {path : String}
    {contents : Bytes} (hput : called (.putFile path contents) (.ok ()) ∈ es) :
    path = dir.join WorkDir.initScriptFile ∨ path = markerPath dir ∧ InitSucceeds dir es := by
  have hlater : ∀ {reply rest}, called (.putFile path contents) (.ok ())
      ∈ called (.fileExists (dir.join WorkDir.initMarkerFile)) reply :: rest →
      called (.putFile path contents) (.ok ()) ∈ rest := by
    intro reply rest hmem
    rcases List.mem_cons.mp hmem with heq | hmem
    · simp [called] at heq
    · exact hmem
  cases h with
  | notConfigured => simp at hput
  | unknown => simpa using hlater hput
  | alreadyDone => simpa [called, said] using hlater hput
  | @completed script _ process output rest hrun =>
      have hsucceeds := (initSucceeds_of_completes hrun).append
        [called (.fileExists (dir.join WorkDir.initMarkerFile)) (.ok false)] []
      rw [List.append_nil] at hsucceeds
      obtain ⟨es₁, es₂, hfirst, ⟨-, rfl⟩, rfl⟩ := hrun.append_cases
      rcases List.mem_append.mp (hlater hput) with hput | hput
      · exact .inl (path_of_executes
          (hfirst.forall_mem (executes_initExecutionScript script process output)) hput)
      · refine .inr ⟨?_, hsucceeds⟩
        have hevent : (⟨path, contents⟩ : String × Bytes)
            = ⟨markerPath dir, Utf8.encode WorkDir.initMarkerText⟩ := by
          simpa [markerScript, Step.event, called, said, markerPath] using hput
        exact congrArg Prod.fst hevent
  | failed _ hrun => exact .inl (path_of_stops hrun (hlater hput))

lemma not_bringsAgent_initCourse {goesOn : Bool} (h : InitCourse plan dir es goesOn) :
    ∀ x ∈ es, ¬ BringsAgent dir x := by
  have hquestion : ∀ reply,
      ¬ BringsAgent dir (called (.fileExists (dir.join WorkDir.initMarkerFile)) reply) := by
    simp [BringsAgent, called]
  have hsaid : ∀ line, ¬ BringsAgent dir (said line) := by
    simp [BringsAgent, said]
  have hname : dir.join WorkDir.initMarkerFile ≠ dir.join WorkDir.agentFile := fun h => by
    have hname := WorkDir.eq_of_join_eq h
    simp [WorkDir.initMarkerFile, WorkDir.agentFile] at hname
  have hmarker : ∀ step ∈ markerScript dir, step.Always fun x => ¬ BringsAgent dir x := by
    simp [markerScript, Step.Always, BringsAgent, called, said, hname]
  have hexecution : ∀ script process output,
      ∀ step ∈ initExecutionScript dir script process output,
        step.Always fun x => ¬ BringsAgent dir x :=
    fun script process output step hstep =>
      (executes_initExecutionScript script process output step hstep).mono
        fun _ => Executes.not_bringsAgent
  cases h with
  | notConfigured => simp
  | unknown => simp [hquestion]
  | alreadyDone => simp [hquestion, hsaid]
  | completed _ hrun =>
      refine List.forall_mem_cons.mpr ⟨hquestion _, hrun.forall_mem ?_⟩
      exact List.forall_mem_append.mpr ⟨hexecution _ _ _, hmarker⟩
  | failed _ hrun =>
      refine List.forall_mem_cons.mpr ⟨hquestion _, hrun.forall_mem hsaid ?_⟩
      exact List.forall_mem_append.mpr ⟨hexecution _ _ _, hmarker⟩

/-- Whatever a visit uploads goes to one of three places. -/
lemma uploads_visitCourse {o : Option Bool} (h : VisitCourse plan dir es o) {path : String}
    {contents : Bytes} (hput : called (.putFile path contents) (.ok ()) ∈ es) :
    path = dir.join WorkDir.initScriptFile ∨ path = dir.join WorkDir.agentFile
      ∨ path = markerPath dir ∧ InitSucceeds dir es := by
  have hnever : ∀ {es : List Event}, (∀ x ∈ es, Preliminary dir x) →
      called (.putFile path contents) (.ok ()) ∉ es := fun hes hmem => hes _ hmem
  have hmiddle : ∀ {before middle after : List Event} {goesOn : Bool},
      InitCourse plan dir middle goesOn → called (.putFile path contents) (.ok ()) ∈ middle →
      path = dir.join WorkDir.initScriptFile ∨ path = dir.join WorkDir.agentFile
        ∨ path = markerPath dir ∧ InitSucceeds dir (before ++ middle ++ after) := by
    intro before middle after goesOn hmiddle hmem
    rcases uploads_initCourse hmiddle hmem with hpath | ⟨hpath, hsucceeds⟩
    · exact .inl hpath
    · exact .inr (.inr ⟨hpath, hsucceeds.append before after⟩)
  cases h with
  | early hbefore => exact absurd hput (hnever hbefore)
  | stopped hbefore hinit hafter =>
      rcases List.mem_append.mp hput with hput | hput
      · rcases List.mem_append.mp hput with hput | hput
        · exact absurd hput (hnever hbefore)
        · exact hmiddle hinit hput
      · exact absurd hput (hnever hafter)
  | prepared hbefore hinit hafter =>
      rcases List.mem_append.mp hput with hput | hput
      · rcases List.mem_append.mp hput with hput | hput
        · exact absurd hput (hnever hbefore)
        · exact hmiddle hinit hput
      · exact .inr (.inl (hafter _ hput))

/-- A visit that does not find the marker missing leaves the init script alone. -/
lemma not_runsInit_visitCourse {o : Option Bool} (h : VisitCourse plan dir es o)
    (hfound : called (.fileExists (markerPath dir)) (.ok false) ∉ es) :
    ∀ x ∈ es, ¬ RunsInit dir x := by
  have hbefore : ∀ {es : List Event}, (∀ x ∈ es, Preliminary dir x) → ∀ x ∈ es, ¬ RunsInit dir x :=
    fun hes x hx => (hes x hx).subsequent.not_runsInit
  have hmiddle : ∀ {middle : List Event} {goesOn : Bool}, InitCourse plan dir middle goesOn →
      called (.fileExists (markerPath dir)) (.ok false) ∉ middle →
      ∀ x ∈ middle, ¬ RunsInit dir x := by
    intro middle goesOn hinit hfound
    cases hinit with
    | notConfigured => simp
    | unknown => simp [RunsInit, called]
    | alreadyDone => simp [RunsInit, called, said]
    | completed => exact absurd List.mem_cons_self hfound
    | failed => exact absurd List.mem_cons_self hfound
  cases h with
  | early hes => exact hbefore hes
  | stopped hes hinit hafter =>
      simp only [List.mem_append, not_or] at hfound
      refine List.forall_mem_append.mpr ⟨List.forall_mem_append.mpr ⟨hbefore hes, ?_⟩, ?_⟩
      · exact hmiddle hinit hfound.1.2
      · exact hbefore hafter
  | prepared hes hinit hafter =>
      simp only [List.mem_append, not_or] at hfound
      refine List.forall_mem_append.mpr ⟨List.forall_mem_append.mpr ⟨hbefore hes, ?_⟩, ?_⟩
      · exact hmiddle hinit hfound.1.2
      · exact fun x hx => (hafter x hx).not_runsInit

/-- The marker is uploaded before anything is done about the agent. -/
def MarksFirst (dir : WorkDir) (es : List Event) : Prop :=
  ∃ booted rest, es = booted ++ rest ∧ Files.Uploads booted (markerPath dir)
    ∧ ∀ x ∈ booted, ¬ BringsAgent dir x

lemma marksFirst_of_completed {before middle after : List Event}
    (hbefore : ∀ x ∈ before, Preliminary dir x) (hmiddle : InitCourse plan dir middle true)
    (hsucceeds : InitSucceeds dir middle) : MarksFirst dir (before ++ middle ++ after) := by
  refine ⟨before ++ middle, after, rfl, ?_, ?_⟩
  · obtain ⟨contents, hmem⟩ := hsucceeds.uploads
    exact ⟨contents, List.mem_append_right _ hmem⟩
  · exact List.forall_mem_append.mpr
      ⟨fun x hx => (hbefore x hx).not_bringsAgent, not_bringsAgent_initCourse hmiddle⟩

lemma not_bringsAgent_stopped {before middle after : List Event}
    (hbefore : ∀ x ∈ before, Preliminary dir x) (hmiddle : InitCourse plan dir middle false)
    (hafter : ∀ x ∈ after, Preliminary dir x) :
    ∀ x ∈ before ++ middle ++ after, ¬ BringsAgent dir x :=
  List.forall_mem_append.mpr
    ⟨List.forall_mem_append.mpr
      ⟨fun x hx => (hbefore x hx).not_bringsAgent, not_bringsAgent_initCourse hmiddle⟩,
    fun x hx => (hafter x hx).not_bringsAgent⟩

/-- A visit that is told that the marker is missing writes it, or fails before there is an
agent. -/
lemma marksFirst_of_toldMissing {o : Option Bool} (h : VisitCourse plan dir es o)
    (htold : called (.fileExists (markerPath dir)) (.ok false) ∈ es) :
    MarksFirst dir es ∨ o = some false ∧ ∀ x ∈ es, ¬ BringsAgent dir x := by
  cases h with
  | early hbefore => exact absurd (hbefore _ htold) id
  | stopped hbefore hmiddle hafter =>
      exact .inr ⟨rfl, not_bringsAgent_stopped hbefore hmiddle hafter⟩
  | @prepared before middle after o hbefore hmiddle hafter =>
      have hmem : called (.fileExists (markerPath dir)) (.ok false) ∈ middle := by
        rcases List.mem_append.mp htold with htold | htold
        · rcases List.mem_append.mp htold with htold | htold
          · exact absurd (hbefore _ htold) id
          · exact htold
        · exact absurd (hafter _ htold) id
      refine .inl (marksFirst_of_completed hbefore hmiddle ?_)
      cases hmiddle with
      | notConfigured => simp at hmem
      | alreadyDone => simp [called, said] at hmem
      | completed _ hrun => simpa using (initSucceeds_of_completes hrun).append [_] []

/-- A visit with an init script that comes when there is no marker writes it, or does not succeed
and has nothing to do with an agent. -/
lemma marksFirst_of_missing {o : Option Bool} (h : VisitCourse plan dir es o) {files : Files}
    (htruthful : files.Truthful es) (hscript : plan.effectiveInitScript ≠ none)
    (hmissing : ¬ files.Present (markerPath dir)) :
    MarksFirst dir es ∨ o ≠ some true ∧ ∀ x ∈ es, ¬ BringsAgent dir x := by
  cases h with
  | early hbefore ho => exact .inr ⟨ho, fun x hx => (hbefore x hx).not_bringsAgent⟩
  | stopped hbefore hmiddle hafter =>
      exact .inr ⟨by simp, not_bringsAgent_stopped hbefore hmiddle hafter⟩
  | @prepared before middle after o hbefore hmiddle hafter =>
      refine .inl (marksFirst_of_completed hbefore hmiddle ?_)
      cases hmiddle with
      | notConfigured hnone => exact absurd hnone hscript
      | alreadyDone =>
          -- Nobody has written the marker since the visit started, so it cannot be there.
          rw [List.append_assoc] at htruthful
          have hpresent : (files.afterAll before).Present (markerPath dir) :=
            ((Files.truthful_append_iff.mp htruthful).2.1 _ true rfl).mp rfl
          rcases (files.present_afterAll_iff _ _).mp hpresent with hpresent | ⟨contents, hput⟩
          · exact absurd hpresent hmissing
          · exact absurd (hbefore _ hput) id
      | completed _ hrun => simpa using (initSucceeds_of_completes hrun).append [_] []

end Visits

/-! ## Over a history of visits -/

section Histories

variable {σ : Type}

/-- A visit and the moment at which it starts. -/
structure TimedVisit (σ : Type) where
  visit : Visit
  start : Scene σ

namespace TimedVisit

variable (world : Surroundings σ) (v : TimedVisit σ)

/-- What happens in a visit. -/
def run : Dialogue.Run signature (Scene σ) Bool := world.run v.visit.activity v.start

/-- The requests and replies of a visit. -/
def events : List Event := (v.run world).events

end TimedVisit

/-- Visits one after another.  Between two of them the surroundings may do anything but touch the
files. -/
inductive History (world : Surroundings σ) (files : σ → Files) :
    Scene σ → List (TimedVisit σ) → Scene σ → Prop where
  | nil (scene : Scene σ) : History world files scene [] scene
  | cons (visit : Visit) {start next last : Scene σ} {visits : List (TimedVisit σ)}
      (hfiles : files next.memory = files (world.run visit.activity start).after.memory)
      (rest : History world files next visits last) :
      History world files start (⟨visit, start⟩ :: visits) last

variable {world : Surroundings σ} {files : σ → Files} {first last : Scene σ}
  {visits : List (TimedVisit σ)}

lemma TimedVisit.course (v : TimedVisit σ) :
    VisitCourse v.visit.plan v.visit.dir (v.events world) (v.run world).result :=
  v.visit.course (world.run_transcript _ _)

/-- A file is there after a visit if it was there before, or the visit has uploaded it. -/
lemma TimedVisit.present_after_iff (hkeeps : KeepsFiles world files) (v : TimedVisit σ)
    (path : String) :
    (files (v.run world).after.memory).Present path
      ↔ (files v.start.memory).Present path ∨ Files.Uploads (v.events world) path := by
  rw [TimedVisit.run, (hkeeps.run v.visit.activity v.start).1]
  exact Files.present_afterAll_iff _ _ _

/-- **Over a history, files come by uploads only.** -/
lemma History.present_iff (hkeeps : KeepsFiles world files)
    (h : History world files first visits last) (path : String) :
    (files last.memory).Present path
      ↔ (files first.memory).Present path ∨ ∃ v ∈ visits, Files.Uploads (v.events world) path := by
  induction h with
  | nil => simp
  | @cons visit start next last visits hfiles rest ih =>
      rw [ih, hfiles]
      have hvisit := TimedVisit.present_after_iff hkeeps ⟨visit, start⟩ path
      rw [TimedVisit.run] at hvisit
      rw [hvisit, or_assoc]
      simp

/-- A history up to the start of one of its visits. -/
lemma History.before {before after : List (TimedVisit σ)} {v : TimedVisit σ}
    (h : History world files first (before ++ v :: after) last) :
    History world files first before v.start := by
  induction before generalizing first with
  | nil =>
      cases h with
      | cons visit hfiles rest => exact .nil _
  | cons w before ih =>
      cases h with
      | cons visit hfiles rest => exact .cons visit hfiles (ih rest)

/-- A file that is there after one of the visits stays. -/
lemma History.present_last (hkeeps : KeepsFiles world files)
    (h : History world files first visits last) {v : TimedVisit σ} (hv : v ∈ visits)
    {path : String} (hpresent : (files (v.run world).after.memory).Present path) :
    (files last.memory).Present path := by
  induction h with
  | nil => simp at hv
  | cons visit hfiles rest ih =>
      rcases List.mem_cons.mp hv with rfl | hv
      · rw [TimedVisit.run, ← hfiles] at hpresent
        exact (rest.present_iff hkeeps path).mpr (.inl hpresent)
      · exact ih hv

/-- A visit ends its preparations with the marker there, whether or not it goes on with an agent
after that. -/
def EndsMarked (files : Files) (dir : WorkDir) (es : List Event) : Prop :=
  ∃ prepared rest, es = prepared ++ rest ∧ (files.afterAll prepared).Present (markerPath dir)
    ∧ ∀ x ∈ prepared, ¬ BringsAgent dir x

lemma MarksFirst.endsMarked {dir : WorkDir} {es : List Event} (h : MarksFirst dir es)
    (files : Files) : EndsMarked files dir es := by
  obtain ⟨prepared, rest, hes, huploads, hquiet⟩ := h
  exact ⟨prepared, rest, hes, (files.present_afterAll_iff _ _).mpr (.inr huploads), hquiet⟩

/-- **What the marker of a directory means** over a history of visits. -/
structure MarkerHistory (world : Surroundings σ) (files : σ → Files) (first : Scene σ)
    (visits : List (TimedVisit σ)) (last : Scene σ) (dir : WorkDir) : Prop where
  /-- In the end there is a marker if there was one before, or some visit to the directory has run
  the init script with success. -/
  present_iff : (files last.memory).Present (markerPath dir)
    ↔ (files first.memory).Present (markerPath dir)
      ∨ ∃ v ∈ visits, v.visit.dir = dir ∧ InitSucceeds dir (v.events world)
  /-- Once there is a marker, no later visit to the directory uploads the script or runs it. -/
  atMostOnce : ∀ before v after, visits = before ++ v :: after → v.visit.dir = dir →
    ((files first.memory).Present (markerPath dir)
      ∨ ∃ earlier ∈ before, (files (earlier.run world).after.memory).Present (markerPath dir)) →
    ∀ x ∈ v.events world, ¬ RunsInit dir x
  /-- A visit that is told that there is no marker prepares the directory with one, or fails and
  has nothing to do with an agent. -/
  toldMissing : ∀ v ∈ visits, v.visit.dir = dir →
    called (.fileExists (markerPath dir)) (.ok false) ∈ v.events world →
    EndsMarked (files v.start.memory) dir (v.events world)
      ∨ (v.run world).result = some false ∧ ∀ x ∈ v.events world, ¬ BringsAgent dir x
  /-- A visit with an init script that comes when there is no marker prepares the directory with
  one, or does not succeed and has nothing to do with an agent, however far it gets. -/
  missing : ∀ v ∈ visits, v.visit.dir = dir → v.visit.plan.effectiveInitScript ≠ none →
    ¬ (files v.start.memory).Present (markerPath dir) →
    EndsMarked (files v.start.memory) dir (v.events world)
      ∨ (v.run world).result ≠ some true ∧ ∀ x ∈ v.events world, ¬ BringsAgent dir x

/-- Only visits to a directory write its marker, and only after the init script has succeeded. -/
lemma uploads_marker_iff (v : TimedVisit σ) (configured : Option String) :
    Files.Uploads (v.events world) (markerPath (WorkDir.resolve configured))
      ↔ v.visit.dir = WorkDir.resolve configured
        ∧ InitSucceeds (WorkDir.resolve configured) (v.events world) := by
  have hdir := WorkDir.resolve_endsInSeparator configured
  have hdir' : v.visit.dir.EndsInSeparator := WorkDir.resolve_endsInSeparator _
  constructor
  · rintro ⟨contents, hput⟩
    rcases uploads_visitCourse v.course hput with hpath | hpath | ⟨hpath, hsucceeds⟩
    · have hname := (WorkDir.join_inj hdir hdir' WorkDir.plain_initMarkerFile
        WorkDir.plain_initScriptFile hpath).2
      simp [WorkDir.initMarkerFile, WorkDir.initScriptFile] at hname
    · have hname := (WorkDir.join_inj hdir hdir' WorkDir.plain_initMarkerFile
        WorkDir.plain_agentFile hpath).2
      simp [WorkDir.initMarkerFile, WorkDir.agentFile] at hname
    · have hsame := (WorkDir.join_inj hdir hdir' WorkDir.plain_initMarkerFile
        WorkDir.plain_initMarkerFile hpath).1
      rw [hsame]
      exact ⟨rfl, hsucceeds⟩
  · rintro ⟨-, hsucceeds⟩
    exact hsucceeds.uploads

lemma TimedVisit.truthful (hkeeps : KeepsFiles world files) (v : TimedVisit σ) :
    (files v.start.memory).Truthful (v.events world) :=
  (hkeeps.run v.visit.activity v.start).2

/-- A visit that comes when there is a marker leaves the init script alone. -/
lemma not_runsInit_of_present (hkeeps : KeepsFiles world files) (v : TimedVisit σ)
    (hpresent : (files v.start.memory).Present (markerPath v.visit.dir)) :
    ∀ x ∈ v.events world, ¬ RunsInit v.visit.dir x := by
  refine not_runsInit_visitCourse v.course fun htold => ?_
  have hfound := (v.truthful hkeeps).found_of_present hpresent htold
  simp at hfound

/-- **The marker over a history.**  Whatever the surroundings do, as long as only uploads change
the files, the marker of every directory that can be configured tells of the init script's
success, and keeps the script from running again. -/
theorem history_marker (hkeeps : KeepsFiles world files)
    (h : History world files first visits last) (configured : Option String) :
    MarkerHistory world files first visits last (WorkDir.resolve configured) where
  present_iff := by
    simp only [h.present_iff hkeeps, uploads_marker_iff]
  atMostOnce := by
    rintro before v after rfl hdir hmarked
    have hbefore := h.before
    have hpresent : (files v.start.memory).Present (markerPath (WorkDir.resolve configured)) := by
      rcases hmarked with hfirst | ⟨earlier, hmem, hearlier⟩
      · exact (hbefore.present_iff hkeeps _).mpr (.inl hfirst)
      · exact hbefore.present_last hkeeps hmem hearlier
    rw [← hdir] at hpresent ⊢
    exact not_runsInit_of_present hkeeps v hpresent
  toldMissing := by
    intro v _ hdir htold
    rw [← hdir] at htold ⊢
    exact (marksFirst_of_toldMissing v.course htold).imp_left fun hmarks => hmarks.endsMarked _
  missing := by
    intro v _ hdir hscript hmissing
    rw [← hdir] at hmissing ⊢
    exact (marksFirst_of_missing v.course (v.truthful hkeeps) hscript hmissing).imp_left
      fun hmarks => hmarks.endsMarked _

end Histories

/-- A plan with an init script. -/
def scriptedPlan : LaunchPlan where
  instanceId := "i-1"
  createdAt := ⟨0, 0, 0⟩
  initScript := some "setup.exe"

/-- A host on which the second command, which is the init script, fails the first time. -/
def stubbornHost : Rehearsal.World where
  script := { execute := [none, some { reply := .ok { exitCode := 7 } }] }

/-- Two bootstraps and a launch, of which the first one fails. -/
theorem history_marker_rehearsed :
    let world := Rehearsal.surroundings ⟨0, 0, 0⟩
    let first : Scene Rehearsal.World := { memory := stubbornHost }
    let second := (world.run (Visit.bootstrap scriptedPlan).activity first).after
    let third := (world.run (Visit.bootstrap scriptedPlan).activity second).after
    let last := (world.run (Visit.launch scriptedPlan 5).activity third).after
    let visits := [⟨.bootstrap scriptedPlan, first⟩, ⟨.bootstrap scriptedPlan, second⟩,
      ⟨.launch scriptedPlan 5, third⟩]
    KeepsFiles world Rehearsal.World.remoteFiles
      ∧ History world Rehearsal.World.remoteFiles first visits last
      ∧ MarkerHistory world Rehearsal.World.remoteFiles first visits last
          (WorkDir.resolve none) := by
  intro world first second third last visits
  have hkeeps : KeepsFiles world Rehearsal.World.remoteFiles :=
    Rehearsal.keepsFiles_surroundings _
  have hhistory : History world Rehearsal.World.remoteFiles first visits last :=
    .cons _ rfl (.cons _ rfl (.cons _ rfl (.nil _)))
  exact ⟨hkeeps, hhistory, history_marker hkeeps hhistory none⟩

end AgentLaunch.Attempt
