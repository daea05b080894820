import AgentLaunch.Proofs.Attempt.Launch
import AgentLaunch.Rehearsal.World
import Mathlib.Data.List.Nodup

/-!
# Who owns the session

What an attempt does with its session and with the processes it starts is read off its events as
a word of *deeds*.  The session passes from the wait to the attempt, and from there to the close
hook; each of them may have to give it up, and the word tells who did.

* `deeds` — the word of an attempt.
* `Custody` — the words that attempts leave, by outcome.
* **`launch_custody`** — whatever the surroundings do, the session is closed by exactly one owner,
  the agent is ended before it, and nothing is asked of a closed session.

Words are easier to reason about than events: writing lines, looking at the clock, pausing and
probing leave no deed, and the replies that matter are part of the deeds.  The word of each part is
computed first, by induction where the part is a loop, and put together along `LaunchCourse`.  There
are seven kinds of words, one constructor each: without a session, with one that is given up, or
with an agent that is not offered, refused or taken.

What is true of every attempt is then read off these kinds.  Each field of `WellKept` is a lemma
about `Custody`, and its proof is a case analysis in which only counting is left to do.  That
helpers are spared needs that no two processes share a number, since a process is known by its
number alone; in the run of `launch_custody_unwilling` no two do, and two helpers come before the
agent.
-/

namespace AgentLaunch.Attempt

open Dialogue

/-! ## Deeds -/

/-- What matters about a request for the session and its processes. -/
inductive Deed where
  | opens
  /-- The session is asked for something, or for a process that does not start. -/
  | uses
  /-- A process starts that helps to prepare the host; it has no limit. -/
  | helps (process : ProcessId)
  /-- The agent starts. -/
  | starts (agent : ProcessId)
  /-- The agent is offered as a channel, which may run the close hook. -/
  | binds (fires : Bool)
  | destroys (process : ProcessId)
  | closes
  deriving DecidableEq

/-- The deed in an event, if there is one. -/
def deed? : Event → Option Deed
  | ⟨.ping _, _⟩ => some .uses
  | ⟨.call (.openSession _), _⟩ => some .opens
  | ⟨.call (.execute _ none), .ok process⟩ => some (.helps process)
  | ⟨.call (.execute _ (some _)), .ok process⟩ => some (.starts process)
  | ⟨.call (.execute _ _), .error _⟩ => some .uses
  | ⟨.call (.putFile _ _), _⟩ => some .uses
  | ⟨.call (.fileExists _), _⟩ => some .uses
  | ⟨.call (.bind _), reply⟩ => some (.binds (reply.actions.contains .fireHook))
  | ⟨.call (.destroy process), _⟩ => some (.destroys process)
  | ⟨.call .closeSession, _⟩ => some .closes
  | _ => none

/-- The deeds in some events, in order. -/
def deeds (es : List Event) : List Deed := es.filterMap deed?

@[simp] lemma deeds_nil : deeds [] = [] := rfl

@[simp] lemma deeds_cons (e : Event) (es : List Event) :
    deeds (e :: es) = (deed? e).toList ++ deeds es := by
  cases h : deed? e <;> simp [deeds, h]

@[simp] lemma deeds_append (es es' : List Event) : deeds (es ++ es') = deeds es ++ deeds es' :=
  List.filterMap_append

@[simp] lemma deed_said (line : String) : deed? (said line) = none := rfl

@[simp] lemma deed_slept (duration : Nat) : deed? (slept duration) = none := rfl

@[simp] lemma deed_looked (time : Nat) : deed? (looked time) = none := rfl

@[simp] lemma deed_dated (now : Timestamp) : deed? (dated now) = none := rfl

@[simp] lemma deed_pinged (budget : Nat) (reply : Option (Except TransportError Bool)) :
    deed? (pinged budget reply) = some .uses := rfl

namespace Deed

/-- The deeds before the agent starts. -/
def Prepares : Deed → Prop
  | uses => True
  | helps _ => True
  | _ => False

/-- A session has to be open for these. -/
def OnSession : Deed → Prop
  | uses => True
  | helps _ => True
  | starts _ => True
  | _ => False

end Deed

/-- All deeds in some events come before the agent starts. -/
def Preparatory (es : List Event) : Prop := ∀ deed ∈ deeds es, deed.Prepares

lemma preparatory_of_forall {es : List Event}
    (h : ∀ x ∈ es, ∀ deed ∈ deed? x, deed.Prepares) : Preparatory es := by
  intro deed hdeed
  obtain ⟨x, hx, hdeed⟩ := List.mem_filterMap.mp hdeed
  exact h x hx deed hdeed

/-! ## The deeds of the parts -/

section Parts

variable {plan : LaunchPlan} {es : List Event}

lemma deeds_findsCredentials {r : Except LaunchError Resolution}
    (h : FindsCredentials plan es r) : deeds es = [] := by
  have hwarning : deeds (identityWarning plan) = [] := by
    unfold identityWarning
    split <;> rfl
  cases h with
  | supplied => rfl
  | notSupplied => rfl
  | unavailable => rfl
  | notGenerated => rfl
  | undecryptable => rfl
  | derived =>
      rw [deeds_append, hwarning]
      rfl

/-- What finding a session, or none, means for it. -/
def opensFor (found : Option SessionTarget) : List Deed := found.toList.map fun _ => .opens

lemma deeds_resolutionPass {r : Except LaunchError (Option SessionTarget)}
    (h : ResolutionPass plan es r) : deeds es = opensFor r.toOption.join := by
  cases h with
  | undescribed => rfl
  | unassigned => rfl
  | pending _ hfinds =>
      rw [deeds_cons, deeds_findsCredentials hfinds]
      rfl
  | failed _ hfinds =>
      rw [deeds_cons, deeds_findsCredentials hfinds]
      rfl
  | opened _ hfinds =>
      rw [deeds_append, deeds_cons, deeds_findsCredentials hfinds]
      rfl

lemma deeds_search {deadline : Deadline} {rounds : Nat}
    {o : Option (Except LaunchError SessionTarget)} (h : Search plan deadline rounds es o) :
    deeds es = opensFor (o.bind Except.toOption) := by
  have hdeeds : ∀ {es r}, Transcript (resolutionPass plan).run es (some r) →
      deeds es = opensFor r.toOption.join :=
    fun ht => deeds_resolutionPass (.of_transcript ht)
  induction h with
  | outOfRounds => rfl
  | late => rfl
  | opened _ hpass => simp [hdeeds hpass, Except.toOption]
  | failed _ hpass => simp [hdeeds hpass, Except.toOption]
  | again _ hpass _ ih => simp [hdeeds hpass, ih, Except.toOption, opensFor]

lemma preparatory_probingPass {deadline : Deadline} {stabilized : Bool} {r : Readiness}
    (h : ProbingPass plan deadline stabilized es r) : Preparatory es := by
  cases h with
  | silent => simp [Preparatory, probing, Deed.Prepares]
  | answers => simp [Preparatory, probing, Deed.Prepares]
  | answersAgain => simp [Preparatory, probing, stabilizing, Deed.Prepares]
  | relapses => simp [Preparatory, probing, stabilizing, Deed.Prepares]

/-- The wait closes the session when it gives up, and otherwise passes it on. -/
def closing {α : Type} : Option (Except LaunchError α) → List Deed
  | some (.error _) => [.closes]
  | _ => []

@[simp] lemma closing_none {α : Type} : closing (none : Option (Except LaunchError α)) = [] := rfl

@[simp] lemma closing_ok {α : Type} (a : α) : closing (some (.ok a)) = [] := rfl

lemma deeds_wait {deadline : Deadline} {rounds : Nat} {stabilized : Bool}
    {o : Option (Except LaunchError Unit)} (h : Wait plan deadline rounds stabilized es o) :
    ∃ us, (∀ deed ∈ us, deed.Prepares) ∧ deeds es = us ++ closing o := by
  induction h with
  | outOfRounds => exact ⟨[], by simp, rfl⟩
  | late => exact ⟨[], by simp, rfl⟩
  | @ready _ _ _ _ es hpass =>
      exact ⟨deeds es, preparatory_probingPass hpass, by simp [closing]⟩
  | @again _ _ _ _ _ es rest _ hpass _ ih =>
      obtain ⟨us, hus, hrest⟩ := ih
      refine ⟨deeds es ++ us, ?_, by simp [hrest]⟩
      intro deed hdeed
      rcases List.mem_append.mp hdeed with hmem | hmem
      · exact preparatory_probingPass hpass deed hmem
      · exact hus deed hmem

/-- A whole wait opens no session, or it opens one and closes it if it gives up. -/
lemma deeds_establishment {rounds : Nat} {o : Option (Except LaunchError SessionTarget)}
    (h : Establishment plan rounds es o) :
    (deeds es = [] ∧ ∀ target, o ≠ some (.ok target))
      ∨ ∃ us, (∀ deed ∈ us, deed.Prepares) ∧ deeds es = .opens :: us ++ closing o := by
  cases h with
  | @unresolved start now es o ho hsearch =>
      refine .inl ⟨?_, ho⟩
      have hes := deeds_search hsearch
      rcases o with _ | _ | target
      · simpa [opening, opensFor] using hes
      · simpa [opening, opensFor, Except.toOption] using hes
      · exact absurd rfl (ho target)
  | @resolved start now es es' target o hsearch hwait =>
      have hes := deeds_search hsearch
      obtain ⟨us, hus, hes'⟩ := deeds_wait hwait
      refine .inr ⟨us, hus, ?_⟩
      have hclosing : closing (o.map (Except.map fun _ => target)) = closing o := by
        rcases o with _ | _ | _ <;> rfl
      simp [opening, hes, hes', hclosing, opensFor, Except.toOption]

end Parts

section Use

variable {plan : LaunchPlan} {es : List Event}

lemma Step.Prepares.always {step : Step} (h : step.Prepares) :
    step.Always fun x => ∀ deed ∈ deed? x, deed.Prepares := by
  cases step with
  | say line => simp [Step.Always]
  | ask c expected setback? =>
      intro reply
      cases c
      case execute command limit =>
        obtain rfl : limit = none := h
        rcases reply with e | process
        · simp [called, deed?, Deed.Prepares]
        · simp [called, deed?, Deed.Prepares]
      all_goals first
        | exact h.elim
        | simp [called, deed?, Deed.Prepares]

lemma deeds_provisioned {a : Answers} (h : Completes (provisionScript plan a) es) :
    ∃ us, (∀ deed ∈ us, deed.Prepares) ∧ deeds es = us ++ [.starts a.agent] := by
  rw [provisionScript_eq] at h
  obtain ⟨es₁, es₂, hbefore, ⟨-, rfl⟩, rfl⟩ := h.append_cases
  have hprepares := hbefore.forall_mem fun step hstep =>
    (prepares_beforeAgent plan a step hstep).always
  exact ⟨deeds es₁, preparatory_of_forall hprepares, deeds_append _ _⟩

lemma preparatory_notProvisioned {a : Answers} {e : LaunchError}
    (h : Stops (provisionScript plan a) es e) : Preparatory es := by
  rw [provisionScript_eq] at h
  have hbefore : ∀ step ∈ prepareScript plan a ++ uploadScript plan (WorkDir.resolve plan.tmpDir)
      a.payload, step.Always fun x => ∀ deed ∈ deed? x, deed.Prepares :=
    fun step hstep => (prepares_beforeAgent plan a step hstep).always
  rcases h.append_cases with hstop | ⟨es₁, es₂, hdone, hstop, rfl⟩
  · exact preparatory_of_forall (hstop.forall_mem (by simp) hbefore)
  · have hfirst : Preparatory es₁ := preparatory_of_forall (hdone.forall_mem hbefore)
    -- The agent's start has failed, so no agent has started.
    obtain ⟨reply, setback, hsetback, rfl, -⟩ := stops_ask_iff.mp hstop
    rcases reply with error | process
    · obtain rfl := Option.some.inj hsetback
      intro deed hdeed
      rw [deeds_append] at hdeed
      rcases List.mem_append.mp hdeed with hmem | hmem
      · exact hfirst deed hmem
      · obtain rfl : deed = .uses := List.mem_singleton.mp hmem
        trivial
    · simp [failing] at hsetback

end Use

/-! ### Handing over -/

/-- The end of an agent and its session. -/
def tearingDown (agent : ProcessId) : List Deed := [.destroys agent, .closes]

/-- The deed in a request whose reply tells nothing more about it. -/
def Request.deed? : Request → Option Deed
  | .call (.destroy process) => some (.destroys process)
  | .call .closeSession => some .closes
  | _ => none

lemma deeds_of_final {es : List Event} {rs : List Request} (hes : requests es = rs)
    (hrs : ∀ r ∈ rs, r.Final) : deeds es = rs.filterMap Request.deed? := by
  subst hes
  induction es with
  | nil => rfl
  | cons x es ih =>
      have hfirst : deed? x = x.request.deed? := by
        obtain ⟨request, reply⟩ := x
        have hfinal : request.Final := hrs _ List.mem_cons_self
        rcases hfinal with hclean | ⟨hook, rfl⟩
        · cases request
          case call c =>
            cases c
            all_goals first
              | rfl
              | exact hclean.elim
          all_goals first
            | rfl
            | exact hclean.elim
        · rfl
      have hrest := ih fun r hr => hrs r (List.mem_cons_of_mem _ hr)
      rw [deeds_cons, hfirst, hrest]
      cases h : x.request.deed? <;> simp [requests, h]

lemma deeds_tearDownRequests (agent : ProcessId) :
    (tearDownRequests agent).filterMap Request.deed? = tearingDown agent := rfl

/-- A channel that runs its hook while it is being bound ends the agent, once. -/
lemma deeds_channelRequests (agent : ProcessId) (fired : Bool) (actions : List ChannelAction) :
    (channelRequests agent fired actions).filterMap Request.deed?
      = if !fired && actions.contains .fireHook then tearingDown agent else [] := by
  induction actions generalizing fired with
  | nil => simp [channelRequests]
  | cons action actions ih =>
      cases action with
      | say line => simpa [channelRequests, List.filterMap_cons, Request.deed?] using ih fired
      | drain => simpa [channelRequests, List.filterMap_cons, Request.deed?] using ih fired
      | fireHook =>
          cases fired with
          | false =>
              simpa [channelRequests, deeds_tearDownRequests, List.filterMap_cons, Request.deed?]
                using ih true
          | true => simpa [channelRequests, List.filterMap_cons, Request.deed?] using ih true

/-- A refused channel ends the agent unless it has done so before. -/
lemma deeds_requestsAfterVerdict (name : String) (hook : CloseHook)
    (verdict : Except LaunchError Unit) :
    (requestsAfterVerdict name hook verdict).filterMap Request.deed?
      = match verdict with
        | .ok () => []
        | .error _ => if hook.fired then [] else tearingDown hook.process := by
  cases verdict with
  | ok => rfl
  | error e =>
      unfold requestsAfterVerdict
      cases hook.fired <;> rfl

/-- Handing an agent over ends it unless the channel is taken and stays open. -/
lemma deeds_handsOver {agent : ProcessId} {name : String} {es : List Event}
    {r : Except LaunchError Unit} (h : HandsOver agent name es r) :
    (∃ e, r = .error e ∧ deeds es = tearingDown agent)
      ∨ (∃ e fires, r = .error e ∧ deeds es = .binds fires :: tearingDown agent)
      ∨ r = .ok () ∧ (deeds es = [.binds false]
        ∨ deeds es = .binds true :: tearingDown agent) := by
  cases h with
  | @noStreams hasOutput hasInput rest hmissing hrest =>
      have hdeeds := deeds_of_final hrest fun r hr => .inl (cleansUp_tearDownRequests agent r hr)
      refine .inl ⟨_, rfl, ?_⟩
      simpa [called, deed?, deeds_tearDownRequests] using hdeeds
  | @offered channel rest hrest =>
      have hdeeds := deeds_of_final hrest (final_requestsAfterBind name agent channel)
      rw [requestsAfterBind, List.filterMap_append, deeds_channelRequests,
        deeds_requestsAfterVerdict] at hdeeds
      have hes : deeds (called (.takeStdout agent) true :: called (.takeStdin agent) true
          :: called (.bind name) channel :: rest)
          = .binds (channel.actions.contains .fireHook) :: deeds rest := rfl
      rw [hes, hdeeds]
      cases hverdict : channel.verdict with
      | error e =>
          refine .inr (.inl ⟨e, channel.actions.contains .fireHook, rfl, ?_⟩)
          cases channel.actions.contains .fireHook <;> rfl
      | ok =>
          refine .inr (.inr ⟨rfl, ?_⟩)
          cases channel.actions.contains .fireHook with
          | false => exact .inl rfl
          | true => exact .inr rfl

/-! ## The word of an attempt -/

/-- The words that attempts leave, by outcome. -/
inductive Custody : List Deed → Option Outcome → Prop where
  /-- There is no session. -/
  | noSession {o : Option Outcome} (ho : o ≠ some .channelEstablished) : Custody [] o
  /-- The wait has the session and is not over. -/
  | waiting {us : List Deed} (hus : ∀ deed ∈ us, deed.Prepares) : Custody (.opens :: us) none
  /-- The wait or the attempt has given the session up before there was an agent. -/
  | givenUp {us : List Deed} {outcome : Outcome} (hus : ∀ deed ∈ us, deed.Prepares)
      (ho : outcome ≠ .channelEstablished) :
      Custody (.opens :: us ++ [.closes]) (some outcome)
  /-- There was an agent without its streams. -/
  | notOffered {us : List Deed} {agent : ProcessId} {reason : String}
      (hus : ∀ deed ∈ us, deed.Prepares) :
      Custody (.opens :: us ++ .starts agent :: tearingDown agent) (some (.aborted reason))
  | refused {us : List Deed} {agent : ProcessId} {fires : Bool} {reason : String}
      (hus : ∀ deed ∈ us, deed.Prepares) :
      Custody (.opens :: us ++ .starts agent :: .binds fires :: tearingDown agent)
        (some (.aborted reason))
  /-- The channel has the session. -/
  | taken {us : List Deed} {agent : ProcessId} (hus : ∀ deed ∈ us, deed.Prepares) :
      Custody (.opens :: us ++ [.starts agent, .binds false]) (some .channelEstablished)
  /-- The channel was closed while it was being bound, and was taken. -/
  | takenAndClosed {us : List Deed} {agent : ProcessId} (hus : ∀ deed ∈ us, deed.Prepares) :
      Custody (.opens :: us ++ .starts agent :: .binds true :: tearingDown agent)
        (some .channelEstablished)

section Words

variable {plan : LaunchPlan} {es : List Event}

lemma deeds_farewell (e : LaunchError) : deeds (farewell e) = [] := by
  cases e <;> rfl

/-- What is done with an open session, as the end of a word. -/
lemma custody_usesSession {us : List Deed} {outcome : Outcome}
    (hus : ∀ deed ∈ us, deed.Prepares) (h : UsesSession plan es outcome) :
    Custody (.opens :: us ++ deeds es) (some outcome) := by
  cases h with
  | @notProvisioned a es e hstop =>
      have hes := preparatory_notProvisioned hstop
      have hword : Deed.opens :: us ++ deeds (es ++ called .closeSession () :: farewell e)
          = .opens :: (us ++ deeds es) ++ [.closes] := by
        simp [deeds_farewell, called, deed?]
      rw [hword]
      exact .givenUp (List.forall_mem_append.mpr ⟨hus, hes⟩) (by simp)
  | @provisioned a es es' r hdone hhand =>
      obtain ⟨us', hus', hes⟩ := deeds_provisioned hdone
      have hall : ∀ deed ∈ us ++ us', deed.Prepares := List.forall_mem_append.mpr ⟨hus, hus'⟩
      have hfarewell : deeds (farewellOf r) = [] := by
        cases r with
        | ok => rfl
        | error e => exact deeds_farewell e
      have hword : Deed.opens :: us ++ deeds (es ++ (es' ++ farewellOf r))
          = .opens :: (us ++ us') ++ .starts a.agent :: deeds es' := by
        simp [hes, hfarewell]
      rw [hword]
      rcases deeds_handsOver hhand with
        ⟨e, rfl, hes'⟩ | ⟨e, fires, rfl, hes'⟩ | ⟨rfl, hes' | hes'⟩
      · rw [hes']
        exact .notOffered hall
      · rw [hes']
        exact .refused hall
      · rw [hes']
        exact .taken hall
      · rw [hes']
        exact .takenAndClosed hall

/-- Every attempt leaves such a word. -/
lemma custody_launchCourse {rounds : Nat} {o : Option Outcome} (h : LaunchCourse plan rounds es o) :
    Custody (deeds es) o := by
  cases h with
  | unfinished hwait =>
      rcases deeds_establishment hwait with ⟨hes, -⟩ | ⟨us, hus, hes⟩
      · rw [hes]
        exact .noSession (by simp)
      · rw [hes, closing_none, List.append_nil]
        exact .waiting hus
  | @concluded es es' r outcome hwait h =>
      rw [deeds_append]
      rcases deeds_establishment hwait with ⟨hes, hno⟩ | ⟨us, hus, hes⟩
      · rw [hes]
        cases h with
        | timedOut => exact .noSession (by simp)
        | failed =>
            rw [deeds_farewell]
            exact .noSession (by simp)
        | connected => exact absurd rfl (hno _)
      · rw [hes]
        cases h with
        | @timedOut secs =>
            have hline : deeds [said (LaunchError.timeout secs).message] = [] := rfl
            rw [hline, List.append_nil]
            exact .givenUp hus (by simp)
        | failed =>
            rw [deeds_farewell, List.append_nil]
            exact .givenUp hus (by simp)
        | connected huse =>
            rw [closing_ok, List.append_nil]
            exact custody_usesSession hus huse

end Words

/-! ## What follows from the word -/

/-- The processes that have started, in order. -/
def processes (word : List Deed) : List ProcessId :=
  word.filterMap fun
    | .helps process => some process
    | .starts agent => some agent
    | _ => none

/-- **Good custody**, for the word and the outcome of an attempt. -/
structure WellKept (word : List Deed) (o : Option Outcome) : Prop where
  openedOnce : word.count .opens ≤ 1
  /-- An attempt that fails closes the session, if there is one. -/
  closedOnFailure : ∀ outcome, o = some outcome → outcome ≠ .channelEstablished →
    word.count .closes = word.count .opens
  /-- The session of a channel is closed if the channel has run its hook, and otherwise stays
  open. -/
  closedByHook : o = some .channelEstablished →
    word.count .closes = if .binds true ∈ word then 1 else 0
  /-- The agent of an aborted attempt is ended once, before the session is closed. -/
  agentDestroyed : ∀ reason, o = some (.aborted reason) → ∀ agent, .starts agent ∈ word →
    word.count (.destroys agent) = 1 ∧ [.destroys agent, .closes].Sublist word
  /-- Only agents are ever ended. -/
  onlyAgents : ∀ process, .destroys process ∈ word → .starts process ∈ word
  /-- In particular no helper is, as long as no two processes share a number. -/
  helpersSpared : (processes word).Nodup → ∀ process, .helps process ∈ word →
    .destroys process ∉ word
  /-- Nothing is asked of a closed session. -/
  quietAfterClose : ∀ before after, word = before ++ .closes :: after →
    ∀ deed ∈ after, ¬ deed.OnSession

namespace Custody

variable {us word : List Deed} {o : Option Outcome}

/-- Deeds that prepare are none of the others. -/
lemma not_mem_of_prepares (hus : ∀ deed ∈ us, deed.Prepares) (deed : Deed)
    (hdeed : ¬ deed.Prepares) : deed ∉ us :=
  fun hmem => hdeed (hus deed hmem)

lemma count_of_prepares (hus : ∀ deed ∈ us, deed.Prepares) (deed : Deed)
    (hdeed : ¬ deed.Prepares) : us.count deed = 0 :=
  List.count_eq_zero.mpr (not_mem_of_prepares hus deed hdeed)

lemma openedOnce (h : Custody word o) : word.count .opens ≤ 1 := by
  cases h with
  | noSession => simp
  | waiting hus | givenUp hus | notOffered hus | refused hus | taken hus | takenAndClosed hus =>
      simp [tearingDown, count_of_prepares hus .opens id]

/-- Closing the session is the last deed, if it happens at all. -/
lemma closes_last (h : Custody word o) :
    .closes ∉ word ∨ ∃ front, .closes ∉ front ∧ word = front ++ [.closes] := by
  cases h with
  | noSession => exact .inl (by simp)
  | waiting hus | taken hus => exact .inl (by simp [not_mem_of_prepares hus .closes id])
  | @givenUp us _ hus =>
      exact .inr ⟨.opens :: us, by simp [not_mem_of_prepares hus .closes id], rfl⟩
  | @notOffered us agent _ hus =>
      exact .inr ⟨.opens :: us ++ [.starts agent, .destroys agent],
        by simp [not_mem_of_prepares hus .closes id], by simp [tearingDown]⟩
  | @refused us agent fires _ hus =>
      exact .inr ⟨.opens :: us ++ [.starts agent, .binds fires, .destroys agent],
        by simp [not_mem_of_prepares hus .closes id], by simp [tearingDown]⟩
  | @takenAndClosed us agent hus =>
      exact .inr ⟨.opens :: us ++ [.starts agent, .binds true, .destroys agent],
        by simp [not_mem_of_prepares hus .closes id], by simp [tearingDown]⟩

lemma closedOnFailure {outcome : Outcome} (h : Custody word (some outcome))
    (ho : outcome ≠ .channelEstablished) : word.count .closes = word.count .opens := by
  cases h with
  | noSession => rfl
  | givenUp hus | notOffered hus | refused hus =>
      simp [tearingDown, count_of_prepares hus .opens id, count_of_prepares hus .closes id]
  | taken | takenAndClosed => exact absurd rfl ho

lemma closedByHook (h : Custody word (some .channelEstablished)) :
    word.count .closes = if .binds true ∈ word then 1 else 0 := by
  cases h with
  | noSession ho => exact absurd rfl ho
  | givenUp _ ho => exact absurd rfl ho
  | taken hus =>
      simp [not_mem_of_prepares hus (.binds true) id, count_of_prepares hus .closes id]
  | takenAndClosed hus => simp [tearingDown, count_of_prepares hus .closes id]

lemma agentDestroyed {reason : String} (h : Custody word (some (.aborted reason)))
    {agent : ProcessId} (hagent : .starts agent ∈ word) :
    word.count (.destroys agent) = 1 ∧ [.destroys agent, .closes].Sublist word := by
  cases h with
  | noSession => simp at hagent
  | givenUp hus => simp [not_mem_of_prepares hus (.starts agent) id] at hagent
  | notOffered hus | refused hus =>
      obtain rfl : agent = _ := by
        simpa [tearingDown, not_mem_of_prepares hus (.starts agent) id] using hagent
      refine ⟨by simp [tearingDown, count_of_prepares hus (.destroys agent) id], ?_⟩
      refine List.Sublist.trans ?_ (List.sublist_append_right _ _)
      simp [tearingDown]

lemma onlyAgents (h : Custody word o) {process : ProcessId}
    (hprocess : .destroys process ∈ word) : .starts process ∈ word := by
  cases h with
  | noSession => simp at hprocess
  | waiting hus | givenUp hus | taken hus =>
      simp [not_mem_of_prepares hus (.destroys process) id] at hprocess
  | notOffered hus | refused hus | takenAndClosed hus =>
      obtain rfl : process = _ := by
        simpa [tearingDown, not_mem_of_prepares hus (.destroys process) id] using hprocess
      simp

/-- A helper and an agent with one number are no two processes. -/
lemma helpersSpared (h : Custody word o) (hdistinct : (processes word).Nodup)
    {process : ProcessId} (hhelps : .helps process ∈ word) : .destroys process ∉ word := by
  intro hdestroys
  obtain ⟨before, after, rfl⟩ := List.append_of_mem (h.onlyAgents hdestroys)
  have hprocesses : processes (before ++ .starts process :: after)
      = processes before ++ process :: processes after := by
    simp [processes]
  rw [hprocesses, List.nodup_middle, List.nodup_cons] at hdistinct
  have hother : .helps process ∈ before ++ after := by simpa using hhelps
  have hagain : process ∈ processes (before ++ after) :=
    List.mem_filterMap.mpr ⟨.helps process, hother, rfl⟩
  exact hdistinct.1 (by simpa [processes] using hagain)

lemma quietAfterClose (h : Custody word o) {before after : List Deed}
    (hword : word = before ++ .closes :: after) : after = [] := by
  rcases h.closes_last with hopen | ⟨front, hfront, hlast⟩
  · exact absurd (by simp [hword]) hopen
  · have hsame : front ++ .closes :: [] = before ++ .closes :: after := by
      rw [← hword, hlast]
    exact ((List.append_cons_inj_of_notMem hfront (by simp)).mp hsame).2.2.symm

end Custody

/-- **Custody of the session.**  Whatever the surroundings do, an attempt opens at most one session
and leaves it to nobody: it is closed once, by the attempt or by the close hook, unless it belongs
to a channel; an agent without a channel is ended before that; and a closed session is left
alone. -/
theorem launch_custody {σ : Type} (plan : LaunchPlan) (rounds : Nat) (world : Surroundings σ)
    (scene : Scene σ) :
    WellKept (deeds (world.run (launch plan rounds) scene).events)
      (world.run (launch plan rounds) scene).result := by
  have h : Custody (deeds (world.run (launch plan rounds) scene).events)
      (world.run (launch plan rounds) scene).result :=
    custody_launchCourse (transcript_launch (world.run_transcript _ _))
  generalize deeds (world.run (launch plan rounds) scene).events = word at h ⊢
  exact {
    openedOnce := h.openedOnce
    closedOnFailure := by
      rintro outcome ho hfailed
      rw [ho] at h
      exact h.closedOnFailure hfailed
    closedByHook := by
      intro ho
      rw [ho] at h
      exact h.closedByHook
    agentDestroyed := by
      intro reason ho agent hagent
      rw [ho] at h
      exact h.agentDestroyed hagent
    onlyAgents := fun _ => h.onlyAgents
    helpersSpared := fun hdistinct _ => h.helpersSpared hdistinct
    quietAfterClose := by
      intro before after hword
      rw [h.quietAfterClose hword]
      simp }

/-- A plan with an init script, which takes helpers. -/
def helpedPlan : LaunchPlan where
  instanceId := "i-1"
  createdAt := ⟨0, 0, 0⟩
  initScript := some "setup.exe"

/-- A host whose channel runs the close hook and then refuses the agent. -/
def unwillingHost : Rehearsal.World where
  script := { bind :=
    [some { reply := { actions := [.fireHook], verdict := .error (.channel "no slot") } }] }

/-- Two helpers prepare the host, and the third process is the agent. -/
theorem launch_custody_unwilling :
    let run := (Rehearsal.surroundings ⟨20000, 0, 0⟩).run (launch helpedPlan 2)
      { memory := unwillingHost }
    run.result = some (.aborted "Channel error: no slot")
      ∧ processes (deeds run.events) = [0, 1, 2]
      ∧ (.helps 0 ∈ deeds run.events ∧ .destroys 0 ∉ deeds run.events)
      ∧ (deeds run.events).count (.destroys 2) = 1
      ∧ (deeds run.events).count .closes = (deeds run.events).count .opens := by
  intro run
  have hkept : WellKept (deeds run.events) run.result := launch_custody ..
  have hresult : run.result = some (.aborted "Channel error: no slot") := by rfl
  have hprocesses : processes (deeds run.events) = [0, 1, 2] := by rfl
  have hhelps : .helps 0 ∈ deeds run.events := by decide +kernel
  have hstarts : .starts 2 ∈ deeds run.events := by decide +kernel
  have hdistinct : (processes (deeds run.events)).Nodup := by
    rw [hprocesses]
    decide
  exact ⟨hresult, hprocesses, ⟨hhelps, hkept.helpersSpared hdistinct 0 hhelps⟩,
    (hkept.agentDestroyed _ hresult 2 hstarts).1, hkept.closedOnFailure _ hresult (by simp)⟩

end AgentLaunch.Attempt
