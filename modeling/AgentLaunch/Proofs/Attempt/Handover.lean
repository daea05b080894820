import AgentLaunch.Proofs.Attempt.CanonicalScript

/-!
# Handing the agent over

The last part of the canonical sequence ends in one of two ways: the agent's streams are not there,
or they are offered to a channel, which takes or refuses them.  What follows is told by its
requests alone, since none of their replies matters any more.

* `channelRequests` — what the channel does with the agent while it is being bound.
* **`HandsOver`** — the ways, and what follows in each.

A channel may run the close hook while it is being bound, and it may do so more than once.  The hook
fires in the first of these runs and is spent afterwards; `channelRequests` therefore carries a flag
along its list of actions, and `transcript_performActions` is an induction on that list with the
hook generalized.  After the verdict the flag decides what is left to do: a refused channel ends the
agent and the session unless its hook has done both before.

`Request.CleansUp` and `Request.Final` name what can still be asked for at this point.  Later
modules need nothing else about it.
-/

namespace AgentLaunch.Attempt

open Dialogue

/-- The requests of some events, without the replies. -/
def requests (es : List Event) : List Request := es.map (·.request)

@[simp] lemma requests_append (es es' : List Event) :
    requests (es ++ es') = requests es ++ requests es' := List.map_append

/-! ## The close hook -/

/-- The end of the agent and of its session. -/
def tearDownRequests (agent : ProcessId) : List Request :=
  [.call (.destroy agent), .call .closeSession]

lemma transcript_tearDown {agent : ProcessId} {es : List Event} {o : Option Unit}
    (ht : Transcript (tearDown agent) es o) :
    requests es = tearDownRequests agent ∧ o = some () := by
  obtain ⟨_, _, hclose, rfl⟩ := transcript_call_bind_iff.mp ht
  obtain ⟨_, rfl, rfl⟩ := transcript_call_iff.mp hclose
  exact ⟨rfl, rfl⟩

/-- A hook has an effect once. -/
lemma transcript_fire {hook : CloseHook} {es : List Event} {o : Option (Bool × CloseHook)}
    (ht : Transcript hook.fire es o) :
    requests es = (if hook.fired then [] else tearDownRequests hook.process)
      ∧ o = some (!hook.fired, { hook with fired := true }) := by
  obtain ⟨agent, _ | _⟩ := hook
  · rcases transcript_bind_iff.mp ht with ⟨_, _, _, hdown, hlast, rfl⟩ | ⟨hdown, rfl⟩
    · obtain ⟨hes, -⟩ := transcript_tearDown hdown
      obtain ⟨rfl, rfl⟩ := transcript_done_iff.mp hlast
      exact ⟨by simpa using hes, rfl⟩
    · obtain ⟨-, h⟩ := transcript_tearDown hdown
      simp at h
  · obtain ⟨rfl, rfl⟩ := transcript_done_iff.mp ht
    exact ⟨rfl, rfl⟩

/-! ## While the channel is being bound -/

/-- What a channel does with the agent while it is being bound; the flag tells whether the close
hook has fired before. -/
def channelRequests (agent : ProcessId) : Bool → List ChannelAction → List Request
  | _, [] => []
  | fired, .say line :: rest => .log line :: channelRequests agent fired rest
  | fired, .drain :: rest => .call (.channelReads agent) :: channelRequests agent fired rest
  | fired, .fireHook :: rest =>
    (if fired then [] else tearDownRequests agent)
      ++ .call (.channelFired !fired) :: channelRequests agent true rest

lemma transcript_performActions {hook : CloseHook} {actions : List ChannelAction}
    {es : List Event} {o : Option CloseHook} (ht : Transcript (performActions hook actions) es o) :
    requests es = channelRequests hook.process hook.fired actions
      ∧ o = some ⟨hook.process, hook.fired || actions.contains .fireHook⟩ := by
  induction actions generalizing hook es o with
  | nil =>
      obtain ⟨rfl, rfl⟩ := transcript_done_iff.mp ht
      exact ⟨rfl, by simp⟩
  | cons action actions ih =>
      cases action with
      | say line =>
          obtain ⟨rest, hrest, rfl⟩ := transcript_log_bind_iff.mp ht
          obtain ⟨hes, rfl⟩ := ih hrest
          refine ⟨?_, by simp⟩
          rw [channelRequests, ← hes]
          rfl
      | drain =>
          obtain ⟨_, rest, hrest, rfl⟩ := transcript_call_bind_iff.mp ht
          obtain ⟨hes, rfl⟩ := ih hrest
          refine ⟨?_, by simp⟩
          rw [channelRequests, ← hes]
          rfl
      | fireHook =>
          rcases transcript_bind_iff.mp ht with ⟨_, _, _, hfire, hmore, rfl⟩ | ⟨hfire, rfl⟩
          · obtain ⟨hes, ho⟩ := transcript_fire hfire
            obtain rfl := Option.some.inj ho
            obtain ⟨_, rest, hrest, rfl⟩ := transcript_call_bind_iff.mp hmore
            obtain ⟨hes', rfl⟩ := ih hrest
            refine ⟨?_, by simp⟩
            rw [requests_append, hes, channelRequests, ← hes']
            rfl
          · obtain ⟨-, h⟩ := transcript_fire hfire
            simp at h

/-- What follows the channel's answer: a channel that was taken keeps its hook, and for one that
was refused the hook is fired, unless it has been. -/
def requestsAfterVerdict (name : String) (hook : CloseHook) :
    Except LaunchError Unit → List Request
  | .ok () => [.call (.channelKeeps hook), .log ("Agent channel established for " ++ name)]
  | .error _ => if hook.fired then [] else tearDownRequests hook.process

/-- What follows when the agent has been offered, the channel's own doing included. -/
def requestsAfterBind (name : String) (agent : ProcessId) (reply : BindReply) : List Request :=
  channelRequests agent false reply.actions
    ++ requestsAfterVerdict name ⟨agent, reply.actions.contains .fireHook⟩ reply.verdict

/-- Requests that clean up, with what a channel does by itself while it is being bound. -/
def Request.CleansUp : Request → Prop
  | .log _ => True
  | .call (.destroy _) => True
  | .call .closeSession => True
  | .call (.channelReads _) => True
  | .call (.channelFired _) => True
  | _ => False

/-- Requests that are made once the agent has been offered, or cannot be. -/
def Request.Final (r : Request) : Prop := r.CleansUp ∨ ∃ hook, r = .call (.channelKeeps hook)

lemma cleansUp_tearDownRequests (agent : ProcessId) :
    ∀ r ∈ tearDownRequests agent, r.CleansUp := by
  simp [tearDownRequests, Request.CleansUp]

lemma cleansUp_channelRequests (agent : ProcessId) (fired : Bool) (actions : List ChannelAction) :
    ∀ r ∈ channelRequests agent fired actions, r.CleansUp := by
  induction actions generalizing fired with
  | nil => simp [channelRequests]
  | cons action actions ih =>
      cases action with
      | say line => simpa [channelRequests, Request.CleansUp] using ih fired
      | drain => simpa [channelRequests, Request.CleansUp] using ih fired
      | fireHook =>
          cases fired with
          | false => simpa [channelRequests, tearDownRequests, Request.CleansUp] using ih true
          | true => simpa [channelRequests, Request.CleansUp] using ih true

/-- A refused channel leaves nothing but cleaning up. -/
lemma cleansUp_requestsAfterBind {reply : BindReply} {e : LaunchError}
    (hrefused : reply.verdict = .error e) (name : String) (agent : ProcessId) :
    ∀ r ∈ requestsAfterBind name agent reply, r.CleansUp := by
  intro r hr
  rcases List.mem_append.mp hr with hchannel | hverdict
  · exact cleansUp_channelRequests _ _ _ r hchannel
  · simp only [hrefused, requestsAfterVerdict] at hverdict
    split at hverdict
    · simp at hverdict
    · exact cleansUp_tearDownRequests agent r hverdict

lemma final_requestsAfterBind (name : String) (agent : ProcessId) (reply : BindReply) :
    ∀ r ∈ requestsAfterBind name agent reply, r.Final := by
  cases hverdict : reply.verdict with
  | error e => exact fun r hr => .inl (cleansUp_requestsAfterBind hverdict name agent r hr)
  | ok =>
      intro r hr
      simp only [requestsAfterBind, hverdict, requestsAfterVerdict, List.mem_append,
        List.mem_cons, List.not_mem_nil, or_false] at hr
      rcases hr with hchannel | rfl | rfl
      · exact .inl (cleansUp_channelRequests _ _ _ r hchannel)
      · exact .inr ⟨_, rfl⟩
      · exact .inl trivial

/-- What an agent without one of its streams means. -/
def streamsMissing : LaunchError := .channel "agent process streams are not available"

/-- **The ways of handing an agent over**, and how each ends. -/
inductive HandsOver (agent : ProcessId) (name : String) :
    List Event → Except LaunchError Unit → Prop where
  | noStreams {hasOutput hasInput : Bool} {rest : List Event}
      (hmissing : (hasOutput && hasInput) = false)
      (hrest : requests rest = tearDownRequests agent) :
      HandsOver agent name
        (called (.takeStdout agent) hasOutput :: called (.takeStdin agent) hasInput :: rest)
        (.error streamsMissing)
  | offered (channel : BindReply) {rest : List Event}
      (hrest : requests rest = requestsAfterBind name agent channel) :
      HandsOver agent name
        (called (.takeStdout agent) true :: called (.takeStdin agent) true
          :: called (.bind name) channel :: rest)
        channel.verdict

lemma transcript_verdict {name : String} {hook : CloseHook} {verdict : Except LaunchError Unit}
    {es : List Event} {o : Option (Except LaunchError Unit)}
    (ht : Transcript (match verdict with
      | .ok () => do
        call (.channelKeeps hook)
        log ("Agent channel established for " ++ name)
      | .error e => do
        let _ ← hook.fire
        throw e : Stage Unit).run es o) :
    requests es = requestsAfterVerdict name hook verdict ∧ o = some verdict := by
  cases verdict with
  | ok =>
      obtain ⟨_, _, hlog, rfl⟩ := transcript_stage_call_bind_iff.mp ht
      obtain ⟨rfl, rfl⟩ := transcript_stage_log_iff.mp hlog
      exact ⟨rfl, rfl⟩
  | error e =>
      rcases transcript_run_lift_bind_iff.mp ht with ⟨_, _, _, hfire, hthrow, rfl⟩ | ⟨hfire, rfl⟩
      · obtain ⟨hes, -⟩ := transcript_fire hfire
        obtain ⟨rfl, rfl⟩ := transcript_run_throw_iff.mp hthrow
        exact ⟨by rw [List.append_nil, hes]; rfl, rfl⟩
      · obtain ⟨-, h⟩ := transcript_fire hfire
        simp at h

theorem transcript_handOver {agent : ProcessId} {name : String} {es : List Event}
    {o : Option (Except LaunchError Unit)} (ht : Transcript (handOver agent name).run es o) :
    ∃ r, HandsOver agent name es r ∧ o = some r := by
  obtain ⟨hasOutput, _, hinput, rfl⟩ := transcript_stage_call_bind_iff.mp ht
  obtain ⟨hasInput, rest, hrest, rfl⟩ := transcript_stage_call_bind_iff.mp hinput
  cases hstreams : (hasOutput && hasInput) with
  | false =>
      rw [hstreams] at hrest
      rcases transcript_run_lift_bind_iff.mp hrest with
        ⟨_, _, _, hdown, hthrow, rfl⟩ | ⟨hdown, rfl⟩
      · obtain ⟨hes, -⟩ := transcript_tearDown hdown
        obtain ⟨rfl, rfl⟩ := transcript_run_throw_iff.mp hthrow
        exact ⟨_, .noStreams hstreams (by simpa using hes), rfl⟩
      · obtain ⟨-, h⟩ := transcript_tearDown hdown
        simp at h
  | true =>
      rw [hstreams] at hrest
      obtain ⟨rfl, rfl⟩ : hasOutput = true ∧ hasInput = true := by simpa using hstreams
      obtain ⟨channel, _, hchannel, rfl⟩ := transcript_stage_call_bind_iff.mp hrest
      rcases transcript_run_lift_bind_iff.mp hchannel with
        ⟨_, hook, _, hactions, hverdict, rfl⟩ | ⟨hactions, rfl⟩
      · obtain ⟨hes, ho⟩ := transcript_performActions hactions
        obtain rfl := Option.some.inj ho
        have hend := transcript_verdict hverdict
        exact ⟨_, .offered channel (by rw [requests_append, hes, hend.1]; rfl), hend.2⟩
      · obtain ⟨-, h⟩ := transcript_performActions hactions
        simp at h

end AgentLaunch.Attempt
