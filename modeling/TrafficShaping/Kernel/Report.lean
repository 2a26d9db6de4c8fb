import TrafficShaping.Kernel.Request

/-!
What the kernel reports of its links, qdiscs and classes.
-/

namespace TrafficShaping

/-- What a message says before it has a header: its type and its payload. -/
abbrev Report := UInt16 × Bytes

/-- The attributes that describe an entry: its kind, its options, and statistics in both forms, all
of which are zero. -/
def Entry.attributes (entry : Entry) : List Attribute :=
  [.ofText TrafficTag.kind entry.kind]
  ++ (entry.options.map fun options => Attribute.leaf TrafficTag.options options).toList
  ++ [.leaf Statistics.flatTag (Bytes.zeros 40),
    .nested Statistics.blocksTag
      [.leaf Statistics.Block.traffic (Bytes.zeros 16),
        .leaf Statistics.Block.queue (Bytes.zeros 20)]]

/-- The payload of the message that describes an entry as if it were at a parent. Its attributes can
be written, since kind and options came to the kernel in attributes. -/
def Entry.report (entry : Entry) (parent : Handle) (info : UInt32) : Bytes :=
  Record.toBytes (TrafficRecord.ofPlace { entry.place with parent } info)
    ++ (Attribute.writeAll entry.attributes).toOption.getD []

namespace Kernel

/-- Where a qdisc stands in a dump of its link: the one of the link itself first, those at the
places for received packets last. -/
def dumpRank (qdisc : Entry) : Nat :=
  if qdisc.place.parent.isRoot then 0
  else if qdisc.place.parent.isIngress || qdisc.place.parent.isClsact then 2
  else 1

/-- Whether a qdisc may stand before another one in a dump: links come by index, and the qdiscs of a
link by rank. -/
def dumpsBefore (a b : Entry) : Bool :=
  a.place.link < b.place.link || (a.place.link == b.place.link && dumpRank a ≤ dumpRank b)

/-- The reports on all qdiscs of all links. -/
def dumpQdiscs (kernel : Kernel) : List Report :=
  (kernel.qdiscs.mergeSort dumpsBefore).map fun qdisc =>
    (MessageType.newQdisc,
      qdisc.report qdisc.place.parent (if qdisc.place.parent.isRoot then 2 else 1))

/-- The reports on the classes of a link, of which a parent selects those with its major number. A
class directly below its qdisc is reported as attached to the link, and each is reported with the
handle of the qdisc below it. -/
def dumpClasses (kernel : Kernel) (link : UInt32) (parent : Handle) : List Report :=
  let selected := kernel.classes.filter fun entry =>
    entry.place.link == link
      && (parent.isNone || entry.place.handle.major == parent.major)
  selected.map fun entry =>
    let above := if entry.place.parent.minor = 0 then .root else entry.place.parent
    let leaf := ((kernel.child? link entry.place.handle).map (·.place.handle.raw)).getD 0
    (MessageType.newClass, entry.report above leaf)

/-- The report on the link that a request names or, if it gives no name, on that of its index. -/
def getLink (kernel : Kernel) (payload : Bytes) : Except Refusal Report := do
  let (record, rest) ← (Record.readFront LinkRecord payload).mapError fun _ => .shortLinkRecord
  let found ← (Tagged.parse rest).mapError fun _ => .malformedAttributes
  let name := (Tagged.find? found LinkRecord.nameTag).bind fun data =>
    (Payload.readText data).toOption
  let wanted (link : Link) : Bool :=
    match name with
    | some name => link.name == name
    | none => link.index == record.linkIndex
  match kernel.links.find? wanted with
  | none => .error .missingDevice
  | some link =>
    let attributes := (Attribute.ofText LinkRecord.nameTag link.name).write.toOption.getD []
    .ok (MessageType.newLink, Record.toBytes (LinkRecord.ofIndex link.index) ++ attributes)

end Kernel

end TrafficShaping
