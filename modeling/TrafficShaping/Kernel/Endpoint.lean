import TrafficShaping.Client.Call
import TrafficShaping.Kernel.Classes
import TrafficShaping.Kernel.Report

/-!
The kernel as the other end of the client's requests.

`Kernel.respond` says what a request does and what is reported. An `Endpoint` numbers the requests
and puts headers before the replies: a refusal is one error report, a dump ends with a message that
says so, and any other request is acknowledged if it asks for that.
-/

namespace TrafficShaping

namespace Kernel

/-- What the kernel does with a request, and what it reports. -/
def respond (request : Request) : Handler (List Report) :=
  let isDump := MessageFlag.isSet request.flags MessageFlag.dump
  let read : Handler TrafficRequest := .check fun _ => TrafficRequest.read request.payload
  if request.type = MessageType.getLink then do
    let report ← Handler.check (·.getLink request.payload)
    pure [report]
  else if request.type = MessageType.newQdisc then do
    newQdisc request.flags (← read)
    pure []
  else if request.type = MessageType.deleteQdisc then do
    deleteQdisc (← read)
    pure []
  else if request.type = MessageType.getQdisc ∧ isDump then
    Handler.check fun kernel => .ok kernel.dumpQdiscs
  else if request.type = MessageType.newClass then do
    newClass request.flags (← read)
    pure []
  else if request.type = MessageType.deleteClass then do
    deleteClass (← read)
    pure []
  else if request.type = MessageType.getClass ∧ isDump then do
    let place := (← read).record.place
    Handler.check fun kernel => .ok (kernel.dumpClasses place.link place.parent)
  else throw .unsupported

end Kernel

/-- A kernel and the requests that it received. -/
structure Endpoint where
  /-- The kernel. -/
  kernel : Kernel
  /-- The number of requests so far. -/
  sequence : UInt32
  /-- The types and flags of the requests in order. -/
  requests : List (UInt16 × UInt16)
  deriving DecidableEq, Repr

namespace Endpoint

/-- A kernel that has received no request. -/
def ofKernel (kernel : Kernel) : Endpoint := ⟨kernel, 0, []⟩

/-- A reply to the request with a header. -/
def reply (request : MessageHeader) (type flags : UInt16) (payload : Bytes) : Message where
  header :=
    ⟨UInt32.ofNat (MessageHeader.size + payload.length), type, flags, request.sequence, 0⟩
  payload

/-- The error report for a refusal: the code, the header of the request, and the text. -/
def refuse (request : MessageHeader) (refusal : Refusal) : Message :=
  let report : ErrorReport := ⟨-refusal.errno, request⟩
  let text := (Attribute.ofText ErrorReport.textTag refusal.text).write.toOption.getD []
  reply request MessageType.error (MessageFlag.capped ||| MessageFlag.reportAttributes)
    (Record.toBytes report ++ text)

/-- The replies to the request with a header. -/
def replies (request : MessageHeader) : Except Refusal (List Report) → List Message
  | .error refusal => [refuse request refusal]
  | .ok reports =>
    if MessageFlag.isSet request.flags MessageFlag.dump then
      reports.map (fun (type, payload) => reply request type MessageFlag.multi payload)
        ++ [reply request MessageType.done MessageFlag.multi (Bytes.zeros 4)]
    else
      reports.map (fun (type, payload) => reply request type 0 payload)
        ++ if MessageFlag.isSet request.flags MessageFlag.acknowledge then
          let report : ErrorReport := ⟨0, request⟩
          [reply request MessageType.error MessageFlag.capped (Record.toBytes report)]
        else []

/-- The replies to a request, and the endpoint after it. -/
def exchange (endpoint : Endpoint) (request : Request) : List Message × Endpoint :=
  let sequence := endpoint.sequence + 1
  let header := ((request.withSequence sequence).withSender 0).header request.length
  let requests := endpoint.requests ++ [(request.type, request.flags)]
  match Kernel.respond request endpoint.kernel with
  | .ok reports kernel => (replies header (.ok reports), ⟨kernel, sequence, requests⟩)
  | .error refusal kernel => (replies header (.error refusal), ⟨kernel, sequence, requests⟩)

/-- The endpoint as what carries the client's requests. -/
def transport : Transport Endpoint := fun endpoint request =>
  let (replies, endpoint) := endpoint.exchange request
  (.ok replies, endpoint)

end Endpoint

end TrafficShaping
