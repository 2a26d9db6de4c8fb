import TrafficShaping.Class
import TrafficShaping.Client.Call
import TrafficShaping.Wire.Records

/-!
Dumps: calls that list qdiscs and classes.

An error report anywhere among the replies decides over all else. The objects are then read from the
messages of the wanted type before the end of the dump, and the first that cannot be read fails the
call, whatever link it is on.
-/

namespace TrafficShaping

/-- What a message tells of a qdisc or a class. -/
structure TrafficReport where
  record : TrafficRecord
  kind : String
  options : Option Bytes
  statistics : Statistics
  deriving DecidableEq, Repr

/-- What the payload of a message tells of a qdisc or a class, which is at least its kind. -/
def TrafficReport.read (payload : Bytes) : Except Error TrafficReport := do
  let (record, rest) ← Record.readFront TrafficRecord payload
  let found ← Tagged.parse rest
  match Tagged.find? found TrafficTag.kind with
  | none => .error (.wireFormat .missingKind)
  | some data =>
    let kind ← Payload.readText data
    let statistics ← Statistics.ofAttributes found
    .ok ⟨record, kind, Tagged.find? found TrafficTag.options, statistics⟩

/-- The qdisc that the payload of a message describes. -/
def Qdisc.read (payload : Bytes) (clock : Clock) : Except Error Qdisc := do
  let report ← TrafficReport.read payload
  Qdisc.decode report.kind report.record.place (some report.record.info) report.statistics
    report.options clock

/-- The class that the payload of a message describes. -/
def Class.read (payload : Bytes) : Except Error Class := do
  let report ← TrafficReport.read payload
  Class.decode report.kind report.record.place report.statistics report.options

namespace Dump

/-- The payloads of the messages of a type before the end of a dump, unless some reply reports an
error. -/
def payloads (type : UInt16) (replies : List Message) : Except Error (List Bytes) := do
  Message.checkAll replies
  .ok (((replies.takeWhile (!·.isDone)).filter (·.header.type == type)).map Message.payload)

/-- The request for all objects of a type at a place. -/
def request (type : UInt16) (link : UInt32) (parent : Handle) : Request :=
  (Request.ofType type (MessageFlag.request ||| MessageFlag.dump)).appendRecord
    (TrafficRecord.ofPlace ⟨link, .none, parent⟩ 0)

/-- The qdiscs that replies list, on one link or on all. -/
def readQdiscs (link : Option UInt32) (clock : Clock) (replies : List Message) :
    Except Error (List Qdisc) := do
  let found ← payloads MessageType.newQdisc replies
  let qdiscs ← found.mapM (Qdisc.read · clock)
  .ok (qdiscs.filter fun qdisc => link.all (· == qdisc.place.link))

/-- The call that lists the qdiscs of one link or of all. -/
def qdiscs (link : Option UInt32) (clock : Clock) : Call (List Qdisc) :=
  .exchange (request MessageType.getQdisc (link.getD 0) .none) (readQdiscs link clock)

/-- The call that finds the first qdisc of a link that satisfies a condition. -/
def findQdisc (link : UInt32) (clock : Clock) (condition : Qdisc → Bool) : Call (Option Qdisc) :=
  .exchange (request MessageType.getQdisc link .none) fun replies =>
    (readQdiscs (some link) clock replies).map (·.find? condition)

/-- The call that finds the qdisc of a handle. -/
def qdiscOfHandle (link : UInt32) (handle : Handle) (clock : Clock) : Call (Option Qdisc) :=
  findQdisc link clock (·.place.handle == handle)

/-- The call that finds the qdisc that is attached to the link itself. -/
def rootQdisc (link : UInt32) (clock : Clock) : Call (Option Qdisc) :=
  findQdisc link clock (·.place.parent.isRoot)

/-- The classes that replies list. -/
def readClasses (replies : List Message) : Except Error (List Class) := do
  let found ← payloads MessageType.newClass replies
  found.mapM Class.read

/-- The call that lists the classes of a link below a parent. -/
def classes (link : UInt32) (parent : Handle) : Call (List Class) :=
  .exchange (request MessageType.getClass link parent) readClasses

end Dump

end TrafficShaping
