import TrafficShaping.Qdisc

/-!
The records at the front of messages on links, qdiscs and classes.
-/

namespace TrafficShaping

/-! ## Traffic messages -/

/-- The record at the front of a message on a qdisc or a class. -/
structure TrafficRecord where
  family : UInt8
  /-- Filling. -/
  fill8 : UInt8
  /-- Filling. -/
  fill16 : UInt16
  link : Int32
  handle : Handle
  parent : Handle
  /-- How often the kernel uses a qdisc, or the qdisc below a class. -/
  info : UInt32
  deriving DecidableEq, Repr

namespace TrafficRecord

instance : Record TrafficRecord where
  name := "tcmsg"
  layout :=
    (Layout.uint8.pair (Layout.uint8.pair (Layout.uint16.pair (Layout.int32.pair
      (Handle.layout.pair (Handle.layout.pair Layout.uint32)))))).map
    (fun (family, fill8, fill16, link, handle, parent, info) =>
      ⟨family, fill8, fill16, link, handle, parent, info⟩)
    (fun record => (record.family, record.fill8, record.fill16, record.link, record.handle,
      record.parent, record.info))

theorem lawful_layout : (Record.layout : Layout TrafficRecord).Lawful :=
  have handle : Handle.layout.Lawful := Layout.lawful_uint32.map (fun _ => rfl) (fun _ => rfl)
  Layout.Lawful.map
    (Layout.lawful_uint8.pair (Layout.lawful_uint8.pair (Layout.lawful_uint16.pair
      (Layout.lawful_int32.pair (handle.pair (handle.pair Layout.lawful_uint32))))))
    (fun _ => rfl) (fun _ => rfl)

/-- The record of a place. -/
def ofPlace (place : Placement) (info : UInt32) : TrafficRecord :=
  ⟨0, 0, 0, place.link.toInt32, place.handle, place.parent, info⟩

/-- The index of the link without sign. -/
def linkIndex (record : TrafficRecord) : UInt32 := record.link.toUInt32

/-- The place of the object. -/
def place (record : TrafficRecord) : Placement :=
  ⟨record.linkIndex, record.handle, record.parent⟩

end TrafficRecord

namespace TrafficTag

def kind : UInt16 := 1
def options : UInt16 := 2

end TrafficTag

/-! ## Link messages -/

/-- The record at the front of a message on a link. -/
structure LinkRecord where
  family : UInt8
  /-- Filling. -/
  fill : UInt8
  device : UInt16
  index : Int32
  flags : UInt32
  change : UInt32
  deriving DecidableEq, Repr

namespace LinkRecord

instance : Record LinkRecord where
  name := "ifinfomsg"
  layout :=
    (Layout.uint8.pair (Layout.uint8.pair (Layout.uint16.pair (Layout.int32.pair
      (Layout.uint32.pair Layout.uint32))))).map
    (fun (family, fill, device, index, flags, change) =>
      ⟨family, fill, device, index, flags, change⟩)
    (fun record => (record.family, record.fill, record.device, record.index, record.flags,
      record.change))

theorem lawful_layout : (Record.layout : Layout LinkRecord).Lawful :=
  Layout.Lawful.map
    (Layout.lawful_uint8.pair (Layout.lawful_uint8.pair (Layout.lawful_uint16.pair
      (Layout.lawful_int32.pair (Layout.lawful_uint32.pair Layout.lawful_uint32)))))
    (fun _ => rfl) (fun _ => rfl)

/-- The record of an index. -/
def ofIndex (index : UInt32) : LinkRecord := ⟨0, 0, 0, index.toInt32, 0, 0⟩

/-- The index without sign. -/
def linkIndex (record : LinkRecord) : UInt32 := record.index.toUInt32

def nameTag : UInt16 := 3

end LinkRecord

end TrafficShaping
