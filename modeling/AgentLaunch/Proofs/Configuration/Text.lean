import AgentLaunch.Proofs.Configuration.Slots
import AgentLaunch.Proofs.Document.TomlRange
import AgentLaunch.Proofs.Document.TomlText

/-!
# The text of a configuration

A configuration is written as four sections of plain values under bare names, so its text is read
back as its document, and the document as the configuration.  Only numbers can be in the way: TOML
has no integers beyond 63 bits, although seconds may have 64.

* `Configuration.Printable` — the seconds have a TOML form.
* `isSome_toText?_iff` — these configurations have a text.
* **`ofText?_toText?`** — which is read back.
* **`fits_and_printable_of_ofText?`** — whatever has been read can be written.

One direction is about the writer: its entries are plain, its names are bare, and its keys are those
of different slots, so the sections are `Proper` and the reader gives them back.  The other
direction is about the reader: whatever text it was given, all integers in its document are in
range, so the numbers of a configuration are, as they come from there or are defaults.

Both together say which configurations a file can hold: those that fit their fields and whose
seconds do not exceed the greatest integer of TOML.
-/

namespace AgentLaunch

open Document (Ranged)
open Toml (Bare Plain valueText?)

namespace Configuration

/-- The greatest integer of TOML. -/
def greatest : Nat := Nat.pow 2 63 - 1

/-- All seconds have a TOML form. -/
structure Printable (c : Configuration) : Prop where
  timeout : c.ssh.timeoutSecs ≤ greatest
  launchTimeout : c.launch.launchTimeoutSecs ≤ greatest
  bootDelay : c.launch.bootDelaySecs ≤ greatest
  retryInterval : c.launch.retryIntervalSecs ≤ greatest

/-! ## Writing -/

section Writing

variable {c : Configuration} {text : String}

lemma isSome_valueText?_ofNat {n : Nat} : (valueText? (.ofNat n)).isSome ↔ n ≤ greatest := by
  have hgreatest : greatest = 9223372036854775807 := rfl
  have hsigned : Document.isSigned64 n = true ↔ n ≤ greatest := by
    rw [hgreatest, Document.isSigned64, Bool.and_eq_true, decide_eq_true_eq, decide_eq_true_eq]
    omega
  rw [← hsigned, Document.ofNat, valueText?]
  split_ifs with h
  · simp [h]
  · simp [h]

lemma forall_mem_optionalEntry {p : String × Document → Prop} {name : String}
    {value : Option String} (h : ∀ s, p (name, .ofText s)) :
    ∀ entry ∈ LaunchSettings.optionalEntry name value, p entry := by
  cases value with
  | none => simp [LaunchSettings.optionalEntry]
  | some s => simpa [LaunchSettings.optionalEntry] using h s

/-- **Only numbers that are too large have no text.** -/
lemma isSome_toText?_iff (h : c.Fits) : c.toText?.isSome ↔ c.Printable := by
  have htext : ∀ s, (valueText? (.ofText s)).isSome ↔ True := fun s => iff_true_intro rfl
  have hbool : ∀ b, (valueText? (.bool b)).isSome ↔ True := fun b => iff_true_intro rfl
  have hoptional : ∀ name value,
      (∀ entry ∈ LaunchSettings.optionalEntry name value, (valueText? entry.2).isSome) ↔ True :=
    fun name value => iff_true_intro (forall_mem_optionalEntry fun _ => rfl)
  have hport : c.ssh.port ≤ greatest := le_trans (Nat.le_of_lt h.ssh.port) (by decide)
  rw [toText?, Toml.isSome_print?_iff]
  simp only [sections, CloudSettings.entries, SshSettings.entries, AgentSettings.entries,
    LaunchSettings.entries, List.forall_mem_cons, List.forall_mem_append, hoptional, htext, hbool,
    isSome_valueText?_ofNat, true_and, and_true, List.not_mem_nil, false_implies, implies_true]
  constructor
  · rintro ⟨⟨-, htimeout⟩, hlaunch, hboot, hretry⟩
    exact ⟨htimeout, hlaunch, hboot, hretry⟩
  · rintro ⟨htimeout, hlaunch, hboot, hretry⟩
    exact ⟨⟨hport, htimeout⟩, hlaunch, hboot, hretry⟩

lemma plain_entries (c : Configuration) : ∀ s ∈ c.sections, ∀ entry ∈ s.2, Plain entry.2 := by
  have htext : ∀ s, Plain (.ofText s) ↔ True := fun s => iff_true_intro (.text s)
  have hbool : ∀ b, Plain (.bool b) ↔ True := fun b => iff_true_intro (.bool b)
  have hnat : ∀ n, Plain (.ofNat n) ↔ True := fun n => iff_true_intro (.nat n)
  have hoptional : ∀ name value,
      (∀ entry ∈ LaunchSettings.optionalEntry name value, Plain entry.2) ↔ True :=
    fun name value => iff_true_intro (forall_mem_optionalEntry .text)
  simp only [sections, CloudSettings.entries, SshSettings.entries, AgentSettings.entries,
    LaunchSettings.entries, List.forall_mem_cons, List.forall_mem_append, hoptional, htext, hbool,
    hnat, and_true, List.not_mem_nil, false_implies, implies_true]

/-- The keys of a section are names of its slots. -/
lemma keys_of_written {R : Type} {slots : List (Slot R)} {r : R}
    (hbare : ∀ name ∈ slots.map Slot.name, Bare name) (hnodup : (slots.map Slot.name).Nodup) :
    (∀ entry ∈ Slot.written slots r, Bare entry.1)
      ∧ ((Slot.written slots r).map Prod.fst).Nodup := by
  have hsublist := ReadBySlots.map_fst_written_sublist slots r
  exact ⟨fun entry hentry => hbare _ (hsublist.subset (List.mem_map_of_mem hentry)),
    hnodup.sublist hsublist⟩

/-- **A configuration is written as sections that can be told apart again.** -/
lemma proper_sections (c : Configuration) : Toml.Proper c.sections := by
  have haws := keys_of_written (r := c.aws) (by decide)
    (CloudSettings.readBySlots .toml).names_nodup
  have hssh := keys_of_written (r := c.ssh) (by decide) (SshSettings.readBySlots .toml).names_nodup
  have hagent := keys_of_written (r := c.agent) (by decide)
    (AgentSettings.readBySlots .toml).names_nodup
  have hlaunch := keys_of_written (r := c.launch) (by decide)
    (LaunchSettings.readBySlots .toml).names_nodup
  rw [← CloudSettings.entries_eq_written] at haws
  rw [← SshSettings.entries_eq_written] at hssh
  rw [← AgentSettings.entries_eq_written] at hagent
  rw [← LaunchSettings.entries_eq_written] at hlaunch
  have hplain := plain_entries c
  simp only [sections, List.forall_mem_cons] at hplain
  obtain ⟨hplain₁, hplain₂, hplain₃, hplain₄, -⟩ := hplain
  constructor
  · simp only [sections, List.forall_mem_cons]
    exact ⟨by decide, by decide, by decide, by decide, by simp⟩
  · change ["aws", "ssh", "agent", "launch"].Nodup
    decide
  · simp only [sections, List.forall_mem_cons]
    exact ⟨fun entry h => ⟨haws.1 entry h, hplain₁ entry h⟩,
      fun entry h => ⟨hssh.1 entry h, hplain₂ entry h⟩,
      fun entry h => ⟨hagent.1 entry h, hplain₃ entry h⟩,
      fun entry h => ⟨hlaunch.1 entry h, hplain₄ entry h⟩, by simp⟩
  · simp only [sections, List.forall_mem_cons]
    exact ⟨haws.2, hssh.2, hagent.2, hlaunch.2, by simp⟩

/-- **The text of a configuration is read back.** -/
lemma ofText?_toText? (h : c.Fits) (htext : c.toText? = some text) : ofText? text = some c := by
  rw [ofText?, Toml.read?_print? (proper_sections c) htext]
  exact ofDocument?_toDocument h

end Writing

/-! ## What has been read can be written -/

section Reading

variable {c : Configuration} {text : String} {d : Document} {dialect : Dialect}

/-- The fields of a record are parts of its document. -/
lemma ranged_of_fields? {names : List String} {fields : Fields} {name : String} {value : Document}
    (hd : d.Ranged) (h : d.fields? dialect names = some fields)
    (hlookup : fields.lookup name = some value) : value.Ranged := by
  obtain ⟨front, back, hsplit, -⟩ := List.lookup_eq_some_iff.mp hlookup
  have hmem : (name, value) ∈ fields := by simp [hsplit]
  cases hd with
  | @table entries hentries =>
      obtain ⟨-, rfl⟩ := tableFields?_eq_some_iff.mp h
      obtain ⟨key, -, hgiven⟩ := List.mem_filterMap.mp hmem
      obtain ⟨d, hd, heq⟩ := Option.map_eq_some_iff.mp hgiven
      obtain ⟨-, rfl⟩ := Prod.mk.inj heq
      obtain ⟨entry, hentry, hkeyed⟩ := List.mem_filterMap.mp (List.mem_of_mem_head? hd)
      obtain ⟨-, hkeyed⟩ := Option.ite_none_right_eq_some.mp hkeyed
      exact Option.some.inj hkeyed ▸ hentries entry hentry
  | @list items hitems =>
      obtain ⟨-, h⟩ := Option.ite_none_right_eq_some.mp h
      obtain rfl := Option.some.inj h
      exact hitems value (List.of_mem_zip hmem).2
  | moment =>
      obtain rfl := Option.some.inj h
      cases hmem
  | _ => cases h

lemma natBelow?_eq_some {bound n : Nat} (hd : d.Ranged) (h : d.natBelow? bound = some n) :
    n < bound ∧ n ≤ greatest := by
  cases hd with
  | @int m hm =>
      obtain ⟨⟨hzero, hbound⟩, hn⟩ := Option.ite_none_right_eq_some.mp h
      obtain rfl := Option.some.inj hn
      have hgreatest : greatest = 9223372036854775807 := rfl
      rw [Document.isSigned64, Bool.and_eq_true, decide_eq_true_eq, decide_eq_true_eq] at hm
      omega
  | _ => cases h

/-- A number in a field is in the range of the field and of its format, or is the default. -/
lemma number_of_fields? {names : List String} {fields : Fields} {name : String}
    {bound n default : Nat} (hd : d.Ranged) (h : d.fields? dialect names = some fields)
    (hn : fields.orElse? name default (Document.natBelow? bound) = some n)
    (hdefault : default < bound ∧ default ≤ greatest) : n < bound ∧ n ≤ greatest := by
  rw [Fields.orElse?] at hn
  split at hn
  · exact Option.some.inj hn ▸ hdefault
  · rename_i hlookup
    exact natBelow?_eq_some (ranged_of_fields? hd h hlookup) hn

lemma ssh_of_ofDocument? {s : SshSettings} (hd : d.Ranged)
    (h : SshSettings.ofDocument? dialect d = some s) : s.Fits ∧ s.timeoutSecs ≤ greatest := by
  obtain ⟨fields, hfields, hslots⟩ := ((SshSettings.readBySlots dialect).reads_iff d s).mp h
  simp only [SshSettings.slots, List.forall_mem_cons, Slot.in?_plain_some] at hslots
  obtain ⟨hport, htimeout, -⟩ := hslots
  have hport := number_of_fields? hd hfields hport (by decide)
  have htimeout := number_of_fields? hd hfields htimeout (by decide)
  exact ⟨⟨hport.1, htimeout.1⟩, htimeout.2⟩

lemma launch_of_ofDocument? {s : LaunchSettings} (hd : d.Ranged)
    (h : LaunchSettings.ofDocument? dialect d = some s) :
    s.Fits ∧ s.launchTimeoutSecs ≤ greatest ∧ s.bootDelaySecs ≤ greatest
      ∧ s.retryIntervalSecs ≤ greatest := by
  obtain ⟨fields, hfields, hslots⟩ := ((LaunchSettings.readBySlots dialect).reads_iff d s).mp h
  simp only [LaunchSettings.slots, List.forall_mem_cons, Slot.in?_plain_some] at hslots
  obtain ⟨-, -, -, -, hlaunch, hboot, -, -, hretry, -⟩ := hslots
  have hlaunch := number_of_fields? hd hfields hlaunch (by decide)
  have hboot := number_of_fields? hd hfields hboot (by decide)
  have hretry := number_of_fields? hd hfields hretry (by decide)
  exact ⟨⟨hlaunch.1, hboot.1, hretry.1⟩, hlaunch.2, hboot.2, hretry.2⟩

/-- **Whatever has been read is in range, and can be written.** -/
lemma fits_and_printable_of_ofText? (h : ofText? text = some c) : c.Fits ∧ c.Printable := by
  obtain ⟨d, hread, hdocument⟩ := Option.bind_eq_some_iff.mp h
  have hd := Toml.read?_ranged hread
  obtain ⟨fields, hfields, hslots⟩ := ((readBySlots .toml).reads_iff d c).mp hdocument
  simp only [slots, List.forall_mem_cons, Slot.in?_plain_some] at hslots
  obtain ⟨-, hssh, -, hlaunch, -⟩ := hslots
  have hssh : c.ssh.Fits ∧ c.ssh.timeoutSecs ≤ greatest := by
    rw [Fields.orElse?] at hssh
    split at hssh
    · have hdefault : {} = c.ssh := Option.some.inj hssh
      exact hdefault ▸ ⟨⟨by decide, by decide⟩, by decide⟩
    · rename_i hlookup
      exact ssh_of_ofDocument? (ranged_of_fields? hd hfields hlookup) hssh
  have hlaunch : c.launch.Fits ∧ c.launch.launchTimeoutSecs ≤ greatest
      ∧ c.launch.bootDelaySecs ≤ greatest ∧ c.launch.retryIntervalSecs ≤ greatest := by
    rw [Fields.orElse?] at hlaunch
    split at hlaunch
    · have hdefault : {} = c.launch := Option.some.inj hlaunch
      exact hdefault ▸ ⟨⟨by decide, by decide, by decide⟩, by decide, by decide, by decide⟩
    · rename_i hlookup
      exact launch_of_ofDocument? (ranged_of_fields? hd hfields hlookup) hlaunch
  exact ⟨⟨hssh.1, hlaunch.1⟩, hssh.2, hlaunch.2.1, hlaunch.2.2.1, hlaunch.2.2.2⟩

end Reading

end Configuration

end AgentLaunch
