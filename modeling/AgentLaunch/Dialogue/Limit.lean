import AgentLaunch.Dialogue

/-!
# Dialogues under a time limit

A dialogue may have to be over at a certain time.  Then every request in it can be cut off: instead
of its reply comes the news that the time is up, and the dialogue ends there without a result.

* `Signature.timed` — every request in two forms, one that waits for its reply as long as it takes
  and one that the limit can cut off.
* `Dialogue.patient`, `Dialogue.limited` — a dialogue whose requests all have one of these forms.
-/

namespace AgentLaunch

/-- A request, with or without a time limit. -/
inductive Timed (S : Signature) where
  /-- Waits for the reply. -/
  | patient (request : S.Request)
  /-- Waits for the reply until the time is up. -/
  | limited (request : S.Request)

/-- The reply to a request; none if the time was up before. -/
abbrev Timed.Reply {S : Signature} : Timed S → Type
  | .patient request => S.Reply request
  | .limited request => Option (S.Reply request)

def Signature.timed (S : Signature) : Signature where
  Request := Timed S
  Reply := Timed.Reply

namespace Dialogue

variable {S : Signature} {α : Type}

def patient : Dialogue S α → Dialogue S.timed α
  | .done a => .done a
  | .ask request next => .ask (.patient request) fun (reply : S.Reply request) =>
    (next reply).patient
  | .unfinished => .unfinished

/-- A dialogue under a time limit; no result if the time was up before its end.  The request that is
cut off is the last one. -/
def limited : Dialogue S α → Dialogue S.timed (Option α)
  | .done a => .done (some a)
  | .ask request next => .ask (.limited request) fun (reply : Option (S.Reply request)) =>
    match reply with
    | some reply => (next reply).limited
    | none => .done none
  | .unfinished => .unfinished

end Dialogue

end AgentLaunch
