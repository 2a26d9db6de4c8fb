import TrafficShaping.Wire.Request

/-!
Calls of the client.

A call either has its outcome without the kernel, or sends exactly one request and reads its outcome
from the replies. What carries a request to the kernel is any function from requests to replies that
may change a state of its own.
-/

namespace TrafficShaping

/-- What carries requests: it answers one with all replies, or fails to, and goes on in a new
state. -/
abbrev Transport (σ : Type) := σ → Request → Except Error (List Message) × σ

/-- A call whose outcome is of some type. -/
inductive Call (α : Type) where
  | answer (outcome : Except Error α)
  | exchange (request : Request) (interpret : List Message → Except Error α)

namespace Call

variable {α β σ : Type}

/-- The call that sends a request, if there is one. -/
def ofRequest (request : Except Error Request) (interpret : List Message → Except Error α) :
    Call α :=
  match request with
  | .ok request => exchange request interpret
  | .error error => answer (.error error)

/-- The call whose value is put through a function. -/
def map (f : α → β) : Call α → Call β
  | answer outcome => answer (outcome.map f)
  | exchange request interpret => exchange request fun replies => (interpret replies).map f

/-- The outcome of a call over a transport, and the state of the transport after it. An error of the
transport is the outcome as it is. -/
def run (call : Call α) (transport : Transport σ) (state : σ) : Except Error α × σ :=
  match call with
  | answer outcome => (outcome, state)
  | exchange request interpret =>
    let (replies, state) := transport state request
    (replies.bind interpret, state)

end Call

end TrafficShaping
