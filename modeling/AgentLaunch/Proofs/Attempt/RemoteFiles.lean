import AgentLaunch.Proofs.Attempt.Script
import Mathlib.Logic.Function.Basic

/-!
# The files on the remote host

What an attempt does to the files on the remote host can be read off its events, as long as nobody
else touches them.

* `KeepsFiles` — surroundings in which only uploads change the files.
* `Files.afterAll` — the files after some events.
* **`KeepsFiles.run`** — in such surroundings a run leaves the files that its events tell, and every
  question about a file has been answered truthfully.

The surroundings of an attempt have a memory of any type, and there are no files in it as far as an
attempt knows.  `KeepsFiles` takes a view of the memory as files, and asks that an upload that
succeeds be the only thing that changes them and that questions about them be answered by them.  A
command may do anything else to the host.

`Files.afterAll` is defined on events, without any surroundings, so what it does is shown by
induction on a list.  `KeepsFiles.run` is an induction on the activity instead, and the bridge
between the two: the memory before each request is the one that the events so far have led to.
-/

namespace AgentLaunch.Attempt

open Dialogue

/-- Files by path. -/
abbrev Files := String → Option Bytes

namespace Files

variable (files : Files)

/-- The files after an event.  An upload that fails writes nothing. -/
def after : Event → Files
  | ⟨.call (.putFile path contents), .ok ()⟩ => Function.update files path (some contents)
  | _ => files

/-- The files after some events. -/
def afterAll (es : List Event) : Files := es.foldl after files

@[simp] lemma afterAll_nil : files.afterAll [] = files := rfl

@[simp] lemma afterAll_cons (x : Event) (es : List Event) :
    files.afterAll (x :: es) = (files.after x).afterAll es := rfl

/-- A file is there. -/
def Present (path : String) : Prop := (files path).isSome = true

/-- Some of the events are an upload to a path. -/
def Uploads (es : List Event) (path : String) : Prop :=
  ∃ contents, called (.putFile path contents) (.ok ()) ∈ es

lemma after_putFile_ok (path : String) (contents : Bytes) :
    files.after (called (.putFile path contents) (.ok ()))
      = Function.update files path (some contents) := rfl

lemma after_of_not_upload {x : Event}
    (hx : ∀ path contents, x ≠ called (.putFile path contents) (.ok ())) :
    files.after x = files := by
  unfold after
  split
  · rename_i path contents
    exact absurd rfl (hx path contents)
  · rfl

/-- A file is there after an event if it was there before, or has been uploaded. -/
lemma present_after_iff (x : Event) (path : String) :
    (files.after x).Present path
      ↔ files.Present path ∨ ∃ contents, x = called (.putFile path contents) (.ok ()) := by
  by_cases hx : ∃ path' contents, x = called (.putFile path' contents) (.ok ())
  · obtain ⟨path', contents, rfl⟩ := hx
    rw [after_putFile_ok, Present]
    by_cases hpath : path = path'
    · subst hpath
      simp only [Function.update_self, Option.isSome_some, true_iff]
      exact .inr ⟨contents, rfl⟩
    · rw [Function.update_of_ne hpath]
      have hother : ¬ ∃ contents', called (.putFile path' contents) (.ok ())
          = called (.putFile path contents') (.ok ()) := by
        simp [called, Ne.symm hpath]
      simp [hother, Present]
  · have hnone : ∀ path' contents, x ≠ called (.putFile path' contents) (.ok ()) :=
      fun path' contents h => hx ⟨path', contents, h⟩
    rw [files.after_of_not_upload hnone]
    simp [hnone]

/-- **Files come by uploads only**, and stay. -/
lemma present_afterAll_iff (es : List Event) (path : String) :
    (files.afterAll es).Present path ↔ files.Present path ∨ Uploads es path := by
  induction es generalizing files with
  | nil => simp [Uploads]
  | cons x es ih =>
      rw [afterAll_cons, ih, present_after_iff]
      simp [Uploads, or_assoc, exists_or, eq_comm]

/-- All answers about files are true. -/
def Truthful : Files → List Event → Prop
  | _, [] => True
  | files, x :: es =>
    (∀ path found, x = called (.fileExists path) (.ok found) → (found = true ↔ files.Present path))
      ∧ Truthful (files.after x) es

lemma truthful_append_iff {files : Files} {es es' : List Event} :
    files.Truthful (es ++ es') ↔ files.Truthful es ∧ (files.afterAll es).Truthful es' := by
  induction es generalizing files with
  | nil => simp [Truthful]
  | cons x es ih => simp [Truthful, ih, and_assoc]

/-- A file that is there is found by everybody who looks for it. -/
lemma Truthful.found_of_present {files : Files} {es : List Event} {path : String} {found : Bool}
    (h : files.Truthful es) (hpresent : files.Present path)
    (hfound : called (.fileExists path) (.ok found) ∈ es) : found = true := by
  induction es generalizing files with
  | nil => simp at hfound
  | cons x es ih =>
      rcases List.mem_cons.mp hfound with heq | hmem
      · exact (h.1 path found heq.symm).mpr hpresent
      · exact ih h.2 ((files.present_after_iff x path).mpr (.inl hpresent)) hmem

end Files

/-! ## Surroundings that keep files -/

/-- **Nobody else touches the files.**  They change only by uploads that succeed, and questions
about them are answered truthfully. -/
structure KeepsFiles {σ : Type} (world : Surroundings σ) (files : σ → Files) : Prop where
  ping : ∀ memory time, files (world.ping memory time).2 = files memory
  uploaded : ∀ memory time path contents,
    (world.answer memory time (.putFile path contents)).1 = .ok () →
      files (world.answer memory time (.putFile path contents)).2.2
        = Function.update (files memory) path (some contents)
  notUploaded : ∀ memory time path contents e,
    (world.answer memory time (.putFile path contents)).1 = .error e →
      files (world.answer memory time (.putFile path contents)).2.2 = files memory
  found : ∀ memory time path found,
    (world.answer memory time (.fileExists path)).1 = .ok found →
      (found = true ↔ (files memory).Present path)
  other : ∀ memory time c, (∀ path contents, c ≠ .putFile path contents) →
    files (world.answer memory time c).2.2 = files memory

namespace KeepsFiles

variable {σ : Type} {world : Surroundings σ} {files : σ → Files}

/-- A request leaves the files that its event tells. -/
lemma respond_files (h : KeepsFiles world files) (scene : Scene σ) (r : Request) :
    files (world.respond scene r).2.memory
      = (files scene.memory).after ⟨r, (world.respond scene r).1⟩ := by
  cases r with
  | log | sleep | elapsed | today => rfl
  | ping budget =>
      have hping := h.ping scene.memory scene.clock
      rw [Surroundings.respond]
      cases htaken : world.ping scene.memory scene.clock with
      | mk behaviour memory =>
          rw [htaken] at hping
          cases behaviour with
          | silent => exact hping
          | answers delay reply =>
              by_cases hdelay : delay ≤ budget
              · simp only [if_pos hdelay]
                exact hping
              · simp only [if_neg hdelay]
                exact hping
  | call c =>
      by_cases hput : ∃ path contents, c = .putFile path contents
      · obtain ⟨path, contents, rfl⟩ := hput
        change files (world.answer scene.memory scene.clock (.putFile path contents)).2.2
          = (files scene.memory).after
            (called _ (world.answer scene.memory scene.clock (.putFile path contents)).1)
        cases hreply : (world.answer scene.memory scene.clock (.putFile path contents)).1 with
        | ok => exact h.uploaded _ _ _ _ hreply
        | error e => exact h.notUploaded _ _ _ _ e hreply
      · have hother : ∀ path contents, c ≠ .putFile path contents :=
          fun path contents heq => hput ⟨path, contents, heq⟩
        rw [Files.after_of_not_upload]
        · exact h.other _ _ c hother
        · intro path contents heq
          exact hother path contents (Request.call.inj (congrArg Dialogue.Event.request heq))

/-- An answer about a file is true. -/
lemma respond_found (h : KeepsFiles world files) (scene : Scene σ) (r : Request) {path : String}
    {found : Bool} (hanswer : (⟨r, (world.respond scene r).1⟩ : Event)
      = called (.fileExists path) (.ok found)) :
    found = true ↔ (files scene.memory).Present path := by
  obtain rfl : r = .call (.fileExists path) := congrArg Dialogue.Event.request hanswer
  have hreply : (world.respond scene (.call (.fileExists path))).1 = .ok found := by
    simpa [called] using hanswer
  exact h.found _ _ _ _ hreply

/-- **A run tells what it has done to the files.** -/
theorem run {α : Type} (h : KeepsFiles world files) (activity : Activity α) (scene : Scene σ) :
    files (world.run activity scene).after.memory
        = (files scene.memory).afterAll (world.run activity scene).events
      ∧ (files scene.memory).Truthful (world.run activity scene).events := by
  induction activity generalizing scene with
  | done a => exact ⟨rfl, trivial⟩
  | unfinished => exact ⟨rfl, trivial⟩
  | ask r next ih =>
      obtain ⟨hrest, htruths⟩ := ih (world.respond scene r).1 (world.respond scene r).2
      rw [h.respond_files scene r] at hrest htruths
      exact ⟨hrest, fun _ _ => h.respond_found scene r, htruths⟩

end KeepsFiles

end AgentLaunch.Attempt
