import AgentLaunch.Proofs.Attempt.RemoteFiles
import AgentLaunch.Rehearsal.World

/-!
# The files of a rehearsal

The scripted world keeps the files of its remote host as it should: whatever is scripted, they
change only by uploads that succeed, and questions about them are answered truthfully.

So the statements about surroundings that keep their files apply to what is rehearsed, and are not
empty.  The files of a scripted world are a list of names with contents.  An upload replaces an
entry or adds one, and both look the same to whoever asks for a name (`get?_insert`).  Commands have
scripted outcomes and touch no file; the scripts decide whether an upload fails, but not what is
there after one that has not.
-/

namespace AgentLaunch.Rehearsal

open Attempt

/-- What is in a file. -/
def FileMap.get? (files : FileMap) (path : String) : Option Bytes := files.lookup path

namespace FileMap

lemma get?_cons (name : String) (contents : Bytes) (files : FileMap) (path : String) :
    get? ((name, contents) :: files) path
      = if path = name then some contents else files.get? path := by
  unfold get?
  by_cases hname : path = name
  · simp [hname]
  · have hbeq : (path == name) = false := beq_eq_false_iff_ne.mpr hname
    simp [List.lookup_cons, hbeq, hname]

lemma contains_eq_isSome (files : FileMap) (path : String) :
    files.contains path = (files.get? path).isSome := by
  induction files with
  | nil => rfl
  | cons file files ih =>
      obtain ⟨name, contents⟩ := file
      rw [get?_cons]
      have hcons : contains ((name, contents) :: files) path
          = (name == path || contains files path) := rfl
      rw [hcons, ih]
      by_cases hname : path = name
      · simp [hname]
      · simp [hname, Ne.symm hname]

lemma get?_erase_of_ne (files : FileMap) {path path' : String} (h : path' ≠ path) :
    (files.erase path).get? path' = files.get? path' := by
  induction files with
  | nil => rfl
  | cons file files ih =>
      obtain ⟨name, contents⟩ := file
      unfold erase at ih ⊢
      by_cases hname : name = path
      · subst hname
        rw [List.filter_cons_of_neg (by simp), ih, get?_cons, if_neg h]
      · rw [List.filter_cons_of_pos (by simpa using hname), get?_cons, get?_cons, ih]

lemma get?_insert (files : FileMap) (path : String) (contents : Bytes) :
    (files.insert path contents).get? = Function.update files.get? path (some contents) := by
  funext path'
  rw [insert, get?_cons]
  by_cases hpath : path' = path
  · subst hpath
    simp
  · rw [if_neg hpath, get?_erase_of_ne files hpath, Function.update_of_ne hpath]

end FileMap

/-- The files on the remote host of a scripted world. -/
def World.remoteFiles (w : World) : Files := w.files.get?

/-- **The scripted world keeps its files.** -/
theorem keepsFiles_surroundings (date : Timestamp) :
    KeepsFiles (surroundings date) World.remoteFiles where
  ping memory _ := by
    change (World.ping memory).2.remoteFiles = memory.remoteFiles
    unfold World.ping
    split <;> rfl
  uploaded memory _ path contents hok := by
    simp only [surroundings, World.answer] at hok ⊢
    split at hok
    · simp at hok
    · exact FileMap.get?_insert _ _ _
  notUploaded memory _ path contents e herror := by
    simp only [surroundings, World.answer] at herror ⊢
    split at herror
    · rfl
    · simp at herror
  found memory _ path found hfound := by
    simp only [surroundings, World.answer] at hfound
    cases hreply : (nextCue memory.script.fileExists (.ok ())).1.reply with
    | error e => simp [hreply, Except.map] at hfound
    | ok =>
        obtain rfl : memory.files.contains path = found := by
          simpa [hreply, Except.map] using hfound
        rw [FileMap.contains_eq_isSome]
        rfl
  other memory _ c hc := by
    cases c
    case putFile path contents => exact absurd rfl (hc path contents)
    case execute command limit =>
      simp only [surroundings, World.answer]
      split <;> rfl
    all_goals rfl

end AgentLaunch.Rehearsal
