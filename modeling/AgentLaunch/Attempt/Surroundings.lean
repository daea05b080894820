import AgentLaunch.Attempt.Request

/-!
# The surroundings of an attempt

Who replies to an attempt's requests, and when.  *Surroundings* say how the others behave: what they
reply to a call and how long that takes, and how the remote host takes a ping, which it may also
leave unanswered.  They may remember anything they like and may look at the clock.

What the attempt does by itself leaves them no choice: a progress line takes no time, a sleep takes
exactly as long as it says, and a ping is cut off when its budget is spent, unless its answer
comes at that very moment.
-/

namespace AgentLaunch.Attempt

inductive PingBehaviour where
  /-- It answers after some time. -/
  | answers (delay : Nat) (reply : Except TransportError Bool)
  | silent
  deriving Inhabited

/-- How everybody else behaves, with a memory of type `σ`. -/
structure Surroundings (σ : Type) where
  /-- The reply to a call that starts at some time, how long it takes, and the memory after. -/
  answer : σ → Nat → (c : Call) → c.Reply × Nat × σ
  /-- How a ping that starts at some time is taken. -/
  ping : σ → Nat → PingBehaviour × σ
  /-- The date at some time. -/
  today : σ → Nat → Timestamp

/-- A moment: what the surroundings remember, and the time on the clock. -/
structure Scene (σ : Type) where
  memory : σ
  clock : Nat := 0
  deriving Repr

namespace Surroundings

variable {σ α : Type}

/-- The reply to a request, and the moment after it.  A ping that would be answered too late is cut
off when its budget is spent, and the surroundings remember it all the same. -/
def respond (world : Surroundings σ) (scene : Scene σ) : (r : Request) → r.Reply × Scene σ
  | .log _ => ((), scene)
  | .sleep duration => ((), { scene with clock := scene.clock + duration })
  | .elapsed => (scene.clock, scene)
  | .today => (world.today scene.memory scene.clock, scene)
  | .ping budget =>
    match world.ping scene.memory scene.clock with
    | (.answers delay reply, memory) =>
      if delay ≤ budget then (some reply, ⟨memory, scene.clock + delay⟩)
      else (none, ⟨memory, scene.clock + budget⟩)
    | (.silent, memory) => (none, ⟨memory, scene.clock + budget⟩)
  | .call c =>
    let (reply, duration, memory) := world.answer scene.memory scene.clock c
    (reply, ⟨memory, scene.clock + duration⟩)

def run (world : Surroundings σ) (activity : Activity α) (scene : Scene σ) :
    Dialogue.Run signature (Scene σ) α :=
  Dialogue.run (S := signature) world.respond activity scene

end Surroundings

end AgentLaunch.Attempt
