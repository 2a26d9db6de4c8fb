import TrafficShaping.Kernel.State
import TrafficShaping.Wire.Message

/-!
Requests about qdiscs and classes as the kernel reads them.
-/

namespace TrafficShaping

/-- A request about a qdisc or a class. -/
structure TrafficRequest where
  record : TrafficRecord
  kind : Option String
  options : Option Bytes
  deriving DecidableEq, Repr

/-- The request in a payload. Statistics cannot be set. -/
def TrafficRequest.read (payload : Bytes) : Except Refusal TrafficRequest := do
  let (record, rest) ← (Record.readFront TrafficRecord payload).mapError fun _ =>
    .shortTrafficRecord
  let found ← (Tagged.parse rest).mapError fun _ => .malformedAttributes
  if found.any fun part => part.tag == Statistics.blocksTag || part.tag == Statistics.flatTag then
    .error .readOnlyStatistics
  else
    let kind ← match Tagged.find? found TrafficTag.kind with
      | none => .ok none
      | some data => ((Payload.readText data).map some).mapError fun _ => .unreadableKind
    .ok ⟨record, kind, Tagged.find? found TrafficTag.options⟩

end TrafficShaping
