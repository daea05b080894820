import AgentLaunch.Proofs.Attempt.FailureReport

/-!
# Warnings

A warning is a line like any other, with a beginning of its own.  The lines that an attempt writes
about its progress can all be told from warnings by their second letter.  But an attempt also passes
lines on, from a command's output and from a channel, and these may look like anything.

* `Unlike` — lines that can be told from warnings.
* `PassedOn` — lines that are not the attempt's own.
* `quiet_provisionScript` — nothing in the canonical sequence is a warning, and nothing about its
  setbacks is.
* **`Concludes.warnsNot`** — after the wait, a warning can only be passed on.

The second letter is enough, because a warning begins with a fixed word and each of the attempt's
own lines begins with a fixed word, too.  `Unlike` is closed under appending anything, so the texts
that come after the beginning, which may be messages from outside, need not be looked at.

A script is `Quiet` if none of its lines and none of its complaints is a warning, wherever it stops.
That is a property of the list of steps, and the canonical sequence has it part by part.  The lines
of the init script's output are the exception: they are steps of the script, but what they say is up
to the command, and `PassedOn` accounts for them.
-/

namespace AgentLaunch.Attempt

open Dialogue

/-! ## Lines -/

/-- A line that is a warning. -/
def Warns (line : String) : Prop := ∃ message, line = Progress.warning message

/-- A line whose second letter is not the one of a warning. -/
def Unlike (line : String) : Prop := ∃ c, c ≠ 'A' ∧ line.toList[1]? = some c

section Lines

variable {front line : String}

lemma Unlike.append (h : Unlike front) (back : String) : Unlike (front ++ back) := by
  obtain ⟨c, hc, hfront⟩ := h
  exact ⟨c, hc, getElem?_toList_append hfront⟩

lemma Unlike.not_warns (h : Unlike line) : ¬ Warns line := by
  rintro ⟨message, rfl⟩
  obtain ⟨c, hc, hline⟩ := h
  have hwarning : (Progress.warning message).toList[1]? = some 'A' :=
    getElem?_toList_append (by decide)
  rw [hwarning] at hline
  exact hc (Option.some.inj hline).symm

end Lines

/-! ## Lines of others -/

/-- A line that is not the attempt's own: it is one of a command's output, or a channel says it. -/
def PassedOn (es : List Event) (line : String) : Prop :=
  (∃ process output, called (.readOutput process) output ∈ es ∧ line ∈ Progress.linesOf output)
    ∨ ∃ name channel, called (.bind name) channel ∈ es ∧ .say line ∈ channel.actions

/-- The attempt itself warns of nothing. -/
def WarnsNot (es : List Event) : Prop := ∀ line ∈ logged es, Warns line → PassedOn es line

section Origins

variable {es es' : List Event} {line : String}

lemma PassedOn.mono (h : PassedOn es line) (hsub : es ⊆ es') : PassedOn es' line := by
  rcases h with ⟨process, output, hread, hline⟩ | ⟨name, channel, hbind, hline⟩
  · exact .inl ⟨process, output, hsub hread, hline⟩
  · exact .inr ⟨name, channel, hsub hbind, hline⟩

lemma WarnsNot.append (h : WarnsNot es) (h' : WarnsNot es') : WarnsNot (es ++ es') := by
  intro line hline hwarns
  rw [logged_append, List.mem_append] at hline
  rcases hline with hline | hline
  · exact (h line hline hwarns).mono (List.subset_append_left es es')
  · exact (h' line hline hwarns).mono (List.subset_append_right es es')

lemma warnsNot_of_unlike (h : ∀ line ∈ logged es, Unlike line) : WarnsNot es :=
  fun line hline hwarns => absurd hwarns (h line hline).not_warns

@[simp] lemma logged_map_said (lines : List String) : logged (lines.map said) = lines := by
  induction lines with
  | nil => rfl
  | cons line lines ih => rw [List.map_cons, logged_said, ih]

/-- After an output has been read, its lines are not the attempt's own. -/
lemma warnsNot_shown (process : ProcessId) (output : CommandOutput) :
    WarnsNot (called (.readOutput process) output :: (Progress.linesOf output).map said) := by
  intro line hline _
  rw [logged_called, logged_map_said] at hline
  exact .inl ⟨process, output, List.mem_cons_self, hline⟩

end Origins

/-! ## Scripts -/

/-- A step that warns of nothing, whatever its reply is. -/
def Step.Quiet : Step → Prop
  | say line => Unlike line
  | ask _ _ setback? => ∀ reply s, setback? reply = some s → ∀ line ∈ s.lines, Unlike line

/-- A script that warns of nothing, wherever it ends. -/
structure Quiet (script : List Step) : Prop where
  completed : ∀ es, Completes script es → WarnsNot es
  stopped : ∀ es e, Stops script es e → WarnsNot es

section Scripts

variable {script rest : List Step} {es : List Event}

lemma Quiet.append (h : Quiet script) (h' : Quiet rest) : Quiet (script ++ rest) where
  completed es hdone := by
    obtain ⟨es₁, es₂, hfirst, hsecond, rfl⟩ := hdone.append_cases
    exact (h.completed es₁ hfirst).append (h'.completed es₂ hsecond)
  stopped es e hstop := by
    rcases hstop.append_cases with hfirst | ⟨es₁, es₂, hfirst, hsecond, rfl⟩
    · exact h.stopped es e hfirst
    · exact (h.completed es₁ hfirst).append (h'.stopped es₂ e hsecond)

lemma Step.Quiet.unlike {step : Step} (h : step.Quiet) :
    ∀ line ∈ logged [step.event], Unlike line := by
  cases step with
  | say line => exact List.forall_mem_singleton.mpr h
  | ask => exact nofun

lemma Quiet.nil : Quiet [] where
  completed es hdone := by
    obtain ⟨-, rfl⟩ := hdone
    exact List.forall_mem_nil _
  stopped es e hstop := absurd hstop not_stops_nil

lemma Quiet.cons {step : Step} (h : step.Quiet) (h' : Quiet rest) : Quiet (step :: rest) where
  completed es hdone := by
    obtain ⟨hgood, rfl⟩ := hdone
    rw [List.forall_mem_cons] at hgood
    exact (warnsNot_of_unlike h.unlike).append (h'.completed _ ⟨hgood.2, rfl⟩)
  stopped es e hstop := by
    cases hstop with
    | @here _ _ _ _ reply s hs =>
        refine warnsNot_of_unlike ?_
        rw [logged_called, logged_map_said]
        exact h reply s hs
    | later _ hrest => exact (warnsNot_of_unlike h.unlike).append (h'.stopped _ e hrest)

/-- Most calls that fail are not written about before the end. -/
lemma quiet_failing {ε α : Type} (toError : ε → LaunchError) (reply : Except ε α) (s : Setback)
    (hs : failing toError reply = some s) : ∀ line ∈ s.lines, Unlike line := by
  cases reply with
  | ok => cases hs
  | error e =>
      obtain rfl := Option.some.inj hs
      exact nofun

lemma quiet_awaitStep {complaint : String} (h : Unlike complaint) (process : ProcessId)
    (step : String) : (awaitStep process step complaint).Quiet := by
  rintro (e | exitCode) s hs
  · obtain rfl := Option.some.inj hs
    exact nofun
  · obtain ⟨-, hs⟩ := Option.ite_none_left_eq_some.mp hs
    obtain rfl := Option.some.inj hs
    exact List.forall_mem_singleton.mpr (h.append _)

/-- Writing lines is not stopped by anything. -/
lemma not_stops_say (lines : List String) {e : LaunchError} :
    ¬ Stops (lines.map .say) es e := by
  intro h
  induction lines generalizing es with
  | nil => exact not_stops_nil h
  | cons line lines ih =>
      cases h with
      | later _ h => exact ih h

/-- A script's output is passed on, whichever way it ends. -/
lemma quiet_outputScript (process : ProcessId) (output : Option CommandOutput) :
    Quiet (outputScript process output) := by
  have hclaim : ∀ claimed, (Step.ask (.takeStdout process) claimed fun _ => none).Quiet := by
    simp [Step.Quiet]
  cases output with
  | none => exact .cons (hclaim false) .nil
  | some output =>
      refine .cons (hclaim true) ⟨fun es hdone => ?_, fun es e hstop => ?_⟩
      · obtain ⟨-, rfl⟩ := hdone
        have hevents : ((Progress.linesOf output).map Step.say).map Step.event
            = (Progress.linesOf output).map said := List.map_map
        rw [List.map_cons, hevents]
        exact warnsNot_shown process output
      · cases hstop with
        | here reply hs =>
            obtain ⟨text, -, rfl⟩ := Option.map_eq_some_iff.mp hs
            exact warnsNot_shown process reply
        | later _ hlines => exact absurd hlines (not_stops_say _)

/-! ### The canonical sequence -/

lemma quiet_directoryScript (dir : WorkDir) (process : ProcessId) :
    Quiet (directoryScript dir process) :=
  .cons ⟨'r', by decide, by decide⟩ <| .cons (quiet_failing _) <|
    .cons (quiet_awaitStep ⟨'r', by decide, by decide⟩ _ _) .nil

lemma quiet_initExecutionScript (dir : WorkDir) (text : String) (process : ProcessId)
    (output : Option CommandOutput) : Quiet (initExecutionScript dir text process output) := by
  refine Quiet.append (.append ?_ (quiet_outputScript process output)) ?_
  · exact .cons ⟨'x', by decide, by decide⟩ <| .cons (quiet_failing _) <|
      .cons (quiet_failing _) .nil
  · exact .cons (quiet_awaitStep ⟨'n', by decide, by decide⟩ _ _) .nil

lemma quiet_initScript (plan : LaunchPlan) (dir : WorkDir) (marked : Bool) (process : ProcessId)
    (output : Option CommandOutput) : Quiet (initScript plan dir marked process output) := by
  unfold initScript
  cases plan.effectiveInitScript with
  | none => exact .nil
  | some text =>
      refine Quiet.cons (quiet_failing _) ?_
      cases marked with
      | true => exact .cons ⟨'n', by decide, by decide⟩ .nil
      | false =>
          exact (quiet_initExecutionScript dir text process output).append <|
            .cons (quiet_failing _) <| .cons ⟨'n', by decide, by decide⟩ .nil

lemma quiet_startScript (plan : LaunchPlan) (dir : WorkDir) (payload : Bytes)
    (agent : ProcessId) : Quiet (startScript plan dir payload agent) :=
  .cons (quiet_failing _) <| .cons (quiet_failing _) <|
    .cons (Unlike.append ⟨'g', by decide, by decide⟩ _) <|
    .cons (Unlike.append ⟨'a', by decide, by decide⟩ _) <| .cons (quiet_failing _) .nil

/-- **Up to a started agent, the attempt itself warns of nothing.** -/
lemma quiet_provisionScript (plan : LaunchPlan) (a : Answers) : Quiet (provisionScript plan a) :=
  ((quiet_directoryScript _ _).append (quiet_initScript _ _ _ _ _)).append
    (quiet_startScript _ _ _ _)

end Scripts

/-! ## After the wait -/

section Concluded

variable {plan : LaunchPlan} {es : List Event}

lemma warnsNot_farewell (e : LaunchError) : WarnsNot (farewell e) := by
  have htold : WarnsNot [said ("Launch failed: " ++ e.message)] :=
    warnsNot_of_unlike (List.forall_mem_singleton.mpr
      (Unlike.append ⟨'a', by decide, by decide⟩ _))
  cases e with
  | commandFailed => exact nofun
  | _ => exact htold

/-- What is written when an agent has been offered: what the channel says, and perhaps one line
more. -/
lemma logged_of_offered {agent : ProcessId} {name : String} {channel : BindReply}
    (hes : requests es = requestsAfterBind name agent channel) :
    ∀ line ∈ logged es, .say line ∈ channel.actions
      ∨ line = "Agent channel established for " ++ name := by
  intro line hline
  rw [logged_eq_filterMap_requests, hes, requestsAfterBind, List.filterMap_append,
    filterMap_line?_channelRequests, List.mem_append] at hline
  rcases hline with hline | hline
  · obtain ⟨action, haction, hsays⟩ := List.mem_filterMap.mp hline
    cases action with
    | say said =>
        obtain rfl := Option.some.inj hsays
        exact .inl haction
    | drain | fireHook => cases hsays
  · refine .inr ?_
    cases hverdict : channel.verdict with
    | ok =>
        rw [hverdict] at hline
        exact List.mem_singleton.mp hline
    | error e =>
        rw [hverdict] at hline
        unfold requestsAfterVerdict at hline
        split_ifs at hline <;> cases hline

lemma HandsOver.warnsNot {agent : ProcessId} {name : String} {r : Except LaunchError Unit}
    (h : HandsOver agent name es r) : WarnsNot es := by
  cases h with
  | noStreams _ hrest =>
      refine warnsNot_of_unlike ?_
      rw [logged_called, logged_called, logged_eq_filterMap_requests, hrest]
      exact nofun
  | offered channel hrest =>
      intro line hline hwarns
      rw [logged_called, logged_called, logged_called] at hline
      rcases logged_of_offered hrest line hline with hsays | rfl
      · exact .inr ⟨name, channel, by simp, hsays⟩
      · exact absurd hwarns (Unlike.append ⟨'g', by decide, by decide⟩ _).not_warns

lemma UsesSession.warnsNot {outcome : Outcome} (h : UsesSession plan es outcome) :
    WarnsNot es := by
  cases h with
  | @notProvisioned a es e hstop =>
      have hclose : WarnsNot [called .closeSession ()] := nofun
      exact ((quiet_provisionScript plan a).stopped _ _ hstop).append
        (hclose.append (warnsNot_farewell e))
  | @provisioned a es es' r hdone hhand =>
      have hlast : WarnsNot (farewellOf r) := by
        cases r with
        | ok => exact nofun
        | error e => exact warnsNot_farewell e
      exact ((quiet_provisionScript plan a).completed _ hdone).append (hhand.warnsNot.append hlast)

/-- **After the wait, the attempt itself warns of nothing.** -/
lemma Concludes.warnsNot {r : Except LaunchError SessionTarget} {outcome : Outcome}
    (h : Concludes plan r es outcome) : WarnsNot es := by
  cases h with
  | timedOut =>
      refine warnsNot_of_unlike (List.forall_mem_singleton.mpr ?_)
      exact (Unlike.append ⟨'i', by decide, by decide⟩ _).append _
  | failed => exact warnsNot_farewell _
  | connected huse => exact huse.warnsNot

end Concluded

end AgentLaunch.Attempt
