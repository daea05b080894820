import AgentLaunch.Attempt.Request

/-!
# Handing the agent over

A started agent is offered to the controller as a channel, together with a *close hook* that ends
the process and closes the session.  From then on the hook owns both: whoever closes the channel
runs it, it has an effect once, and it is run right away if the channel is refused.

Binding is not a single moment.  A channel may write lines, take up what the agent has said and run
the hook, all before its verdict is known; `BindReply` lists what it does, and `performActions` does
it in order with the hook passed along.  A hook that has fired by then is spent, so a verdict
against the agent ends nothing twice.
-/

namespace AgentLaunch.Attempt

/-- Ends the agent and closes the session, in this order: the agent is reached through the
session. -/
def tearDown (process : ProcessId) : Activity Unit := do
  call (.destroy process)
  call .closeSession

namespace CloseHook

/-- Runs the hook: whether that had an effect, and the hook afterwards.  A hook that has fired asks
for nothing any more. -/
def fire (hook : CloseHook) : Activity (Bool × CloseHook) :=
  if hook.fired then pure (false, hook)
  else do
    tearDown hook.process
    pure (true, { hook with fired := true })

end CloseHook

def performActions (hook : CloseHook) : List ChannelAction → Activity CloseHook
  | [] => pure hook
  | .say line :: rest => do
    log line
    performActions hook rest
  | .drain :: rest => do
    let _ ← call (.channelReads hook.process)
    performActions hook rest
  | .fireHook :: rest => do
    let (effect, hook) ← hook.fire
    call (.channelFired effect)
    performActions hook rest

/-- Offers a started agent as a channel.  An agent without its streams is not offered; it is ended
at once, as it is when the channel refuses it. -/
def handOver (process : ProcessId) (name : String) : Stage Unit := do
  let output ← call (.takeStdout process)
  let input ← call (.takeStdin process)
  if output && input then
    let reply ← call (.bind name)
    let hook ← performActions { process } reply.actions
    match reply.verdict with
    | .ok () =>
      call (.channelKeeps hook)
      log ("Agent channel established for " ++ name)
    | .error e =>
      let _ ← hook.fire
      throw e
  else
    tearDown process
    throw (.channel "agent process streams are not available")

end AgentLaunch.Attempt
