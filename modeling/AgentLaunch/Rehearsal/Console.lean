import AgentLaunch.Channel.Relay

/-!
# Rehearsing channels over a console

One console serves several channels, each with an agent of its own: the agents' output goes to the
console, and what is typed goes to the first agent.  Pieces of output and input arrive one after
another, each fully delivered before the next; then one of the two sides ends, or the console shuts
all channels down.
-/

namespace AgentLaunch.Rehearsal

/-- Something that comes from one of the two sides. -/
inductive Delivery where
  | fromAgent (bytes : Bytes)
  | fromController (bytes : Bytes)
  deriving DecidableEq, Repr

inductive Farewell where
  /-- The output of the first agent ends. -/
  | agentEnds
  /-- The controller's input ends. -/
  | controllerEnds
  /-- The console shuts its channels down, so many times. -/
  | shutdown (times : Nat)
  deriving DecidableEq, Repr

structure Console where
  channels : List Relay.State
  /-- What happens to the processes and sessions, by the number of the channel. -/
  teardowns : List (Nat × Teardown.Event) := []
  deriving DecidableEq, Repr, Inhabited

namespace Console

open Relay.State (copySteps endSteps closingMoves firingMoves)

/-- A console with so many channels of one name. -/
def ofCount (name : String) (count : Nat) : Console where
  channels := List.replicate count { name }

/-- Some moves of one channel. -/
def move (c : Console) (number : Nat) (moves : Relay.State → List Relay.Move) : Console :=
  match c.channels[number]? with
  | none => c
  | some channel =>
    let after := channel.run (moves channel)
    { c with
      channels := c.channels.set number after
      teardowns := c.teardowns
        ++ (after.hookEvents.drop channel.hookEvents.length).map fun e => (number, e) }

/-- Some moves of every channel, one channel after another. -/
def moveAll (c : Console) (moves : Relay.State → List Relay.Move) : Console :=
  (List.range c.channels.length).foldl (fun c number => c.move number moves) c

def deliver (c : Console) : Delivery → Console
  | .fromAgent bytes => c.move 0 fun _ => (copySteps bytes).map .outbound
  | .fromController bytes => c.move 0 fun _ => (copySteps bytes).map .inbound

def conclude (c : Console) : Farewell → Console
  | .agentEnds =>
    (c.move 0 fun _ => endSteps.map .outbound).move 0 closingMoves
  | .controllerEnds =>
    (c.moveAll fun _ => endSteps.map .inbound).moveAll closingMoves
  | .shutdown times => (List.range times).foldl (fun c _ => c.moveAll firingMoves) c

/-- Runs every close hook, as a channel may do while it is being bound. -/
def fireAll (c : Console) : Console :=
  c.moveAll firingMoves

def rehearse (c : Console) (deliveries : List Delivery) (farewell : Farewell) : Console :=
  (deliveries.foldl deliver c).conclude farewell

/-- What one more run of the first hook returns. -/
def fireAgain (c : Console) : Bool :=
  match c.channels.head? with
  | none => false
  | some channel =>
    ((channel.run (firingMoves channel)).hook.returned? channel.hook.runs.length).getD false

def toController (c : Console) : Bytes :=
  c.channels.flatMap Relay.State.toController

def lines (c : Console) : List String :=
  c.channels.flatMap Relay.State.lines

end Console

end AgentLaunch.Rehearsal
