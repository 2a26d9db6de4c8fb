import TrafficShaping.Wire.Layout.Lawful

/-!
The default qdisc of the kernel: a first-in, first-out queue with bands, to which a map assigns the
priorities of packets.
-/

namespace TrafficShaping

/-- Bands and the map of priorities to them. -/
structure PfifoFast where
  /-- The number of bands. -/
  bands : Int32
  /-- The band of each of the sixteen priorities. -/
  bandOfPriority : Bytes.Exact 16
  deriving DecidableEq, Repr

namespace PfifoFast

instance : Record PfifoFast where
  name := "tc_prio_qopt"
  layout := (Layout.int32.pair (Layout.bytes 16)).map
    (fun (bands, bandOfPriority) => ⟨bands, bandOfPriority⟩)
    (fun qdisc => (qdisc.bands, qdisc.bandOfPriority))

theorem lawful_layout : (Record.layout : Layout PfifoFast).Lawful :=
  (Layout.lawful_int32.pair (Layout.lawful_bytes 16)).map (fun _ => rfl) (fun _ => rfl)

/-- The bands and the map that the kernel starts with. -/
def standard : PfifoFast := ⟨3, ⟨[1, 2, 2, 2, 1, 2, 0, 0, 1, 1, 1, 1, 1, 1, 1, 1], rfl⟩⟩

/-- The options that carry bands and map. -/
def encode (qdisc : PfifoFast) : Bytes := Record.toBytes qdisc

/-- The bands and the map that options carry, the standard ones without options. -/
def decode (options : Option Bytes) : Except Error PfifoFast :=
  match options with
  | none => .ok standard
  | some data => Record.read PfifoFast data

end PfifoFast

end TrafficShaping
