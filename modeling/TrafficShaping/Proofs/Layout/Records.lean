import TrafficShaping.Kind.Hfsc
import TrafficShaping.Kind.Htb
import TrafficShaping.Kind.Netem
import TrafficShaping.Kind.PfifoFast
import TrafficShaping.Proofs.Layout.Structure
import TrafficShaping.Wire.Message
import TrafficShaping.Wire.Records

/-!
The sixteen structures of the kernel's interface.

Each list of members is the declaration of the structure, with the sort of every member in its
place. None of them needs filling, so that all bytes of a record are those of its members; signed
members are in two's complement. `kernelStructures` says of all sixteen that their records lie so
and are, one to one, the byte strings of their size. A byte string has no address here: what is read
depends on the bytes alone and not on where they lie.
-/

namespace TrafficShaping

open Member

/-! ## Messages and attributes -/

namespace MessageHeader

def members : List (Member MessageHeader) :=
  [uint32 length, uint16 type, uint16 flags, uint32 sequence, uint32 sender]

theorem liesAs : Record.LiesAs MessageHeader "nlmsghdr" 16 members :=
  lawful_layout.liesAs fun _ => rfl

end MessageHeader

namespace ErrorReport

def members : List (Member ErrorReport) := [int32 code, nested MessageHeader.members request]

theorem liesAs : Record.LiesAs ErrorReport "nlmsgerr" 20 members := by
  refine lawful_layout.liesAs fun report => ?_
  rw [members, int32_eq]
  rfl

example : Record.toBytes (⟨-19, .ofType MessageType.getLink 5⟩ : ErrorReport) =
    [0xED, 0xFF, 0xFF, 0xFF, 16, 0, 0, 0, 18, 0, 5, 0, 0, 0, 0, 0, 0, 0, 0, 0] := by decide

end ErrorReport

namespace AttributeHeader

def members : List (Member AttributeHeader) := [uint16 length, uint16 type]

theorem liesAs : Record.LiesAs AttributeHeader "attribute header" 4 members :=
  lawful_layout.liesAs fun _ => rfl

end AttributeHeader

namespace TrafficRecord

def members : List (Member TrafficRecord) :=
  [uint8 family, uint8 fill8, uint16 fill16, int32 link, uint32 (·.handle.raw),
    uint32 (·.parent.raw), uint32 info]

theorem liesAs : Record.LiesAs TrafficRecord "tcmsg" 20 members := by
  refine lawful_layout.liesAs fun record => ?_
  rw [members, int32_eq]
  rfl

end TrafficRecord

namespace LinkRecord

def members : List (Member LinkRecord) :=
  [uint8 family, uint8 fill, uint16 device, int32 index, uint32 flags, uint32 change]

theorem liesAs : Record.LiesAs LinkRecord "ifinfomsg" 16 members := by
  refine lawful_layout.liesAs fun record => ?_
  rw [members, int32_eq]
  rfl

end LinkRecord

/-! ## Hierarchical token bucket -/

namespace RateSpec

def members : List (Member RateSpec) :=
  [uint8 cellLog, uint8 linkLayer, uint16 overhead, int16 cellAlign, uint16 minimumSize,
    uint32 rate]

theorem liesAs : Record.LiesAs RateSpec "tc_ratespec" 12 members := by
  refine lawful_layout.liesAs fun spec => ?_
  rw [members, int16_eq]
  rfl

end RateSpec

namespace HtbParameters

def members : List (Member HtbParameters) :=
  [nested RateSpec.members rate, nested RateSpec.members ceiling, uint32 buffer,
    uint32 ceilingBuffer, uint32 quantum, uint32 level, uint32 priority]

theorem liesAs : Record.LiesAs HtbParameters "tc_htb_opt" 44 members := by
  refine lawful_layout.liesAs fun parameters => ?_
  rw [members, RateSpec.members, int16_eq]
  rfl

end HtbParameters

namespace HtbGlobals

def members : List (Member HtbGlobals) :=
  [uint32 version, uint32 rateToQuantum, uint32 defaultClass, uint32 debug, uint32 directPackets]

theorem liesAs : Record.LiesAs HtbGlobals "tc_htb_glob" 20 members :=
  lawful_layout.liesAs fun _ => rfl

end HtbGlobals

/-! ## Network emulator -/

namespace NetemBase

def members : List (Member NetemBase) :=
  [uint32 latency, uint32 limit, uint32 loss, uint32 gap, uint32 duplicate, uint32 jitter]

theorem liesAs : Record.LiesAs NetemBase "tc_netem_qopt" 24 members :=
  lawful_layout.liesAs fun _ => rfl

end NetemBase

namespace NetemCorrelation

def members : List (Member NetemCorrelation) := [uint32 delay, uint32 loss, uint32 duplicate]

theorem liesAs : Record.LiesAs NetemCorrelation "tc_netem_corr" 12 members :=
  lawful_layout.liesAs fun _ => rfl

end NetemCorrelation

namespace NetemReorder

def members : List (Member NetemReorder) := [uint32 probability, uint32 correlation]

theorem liesAs : Record.LiesAs NetemReorder "tc_netem_reorder" 8 members :=
  lawful_layout.liesAs fun _ => rfl

end NetemReorder

namespace NetemCorrupt

def members : List (Member NetemCorrupt) := [uint32 probability, uint32 correlation]

theorem liesAs : Record.LiesAs NetemCorrupt "tc_netem_corrupt" 8 members :=
  lawful_layout.liesAs fun _ => rfl

end NetemCorrupt

namespace NetemRate

def members : List (Member NetemRate) :=
  [uint32 rate, int32 packetOverhead, uint32 cellSize, int32 cellOverhead]

theorem liesAs : Record.LiesAs NetemRate "tc_netem_rate" 16 members := by
  refine lawful_layout.liesAs fun spec => ?_
  rw [members, int32_eq, int32_eq]
  rfl

end NetemRate

/-! ## Fair service curve and priorities -/

namespace ServiceCurve

def members : List (Member ServiceCurve) := [uint32 firstSlope, uint32 duration, uint32 secondSlope]

theorem liesAs : Record.LiesAs ServiceCurve "tc_service_curve" 12 members :=
  lawful_layout.liesAs fun _ => rfl

end ServiceCurve

namespace HfscQdisc

def members : List (Member HfscQdisc) := [uint16 defaultClass]

theorem liesAs : Record.LiesAs HfscQdisc "tc_hfsc_qopt" 2 members :=
  lawful_layout.liesAs fun _ => rfl

end HfscQdisc

namespace PfifoFast

def members : List (Member PfifoFast) := [int32 bands, array 16 bandOfPriority]

theorem liesAs : Record.LiesAs PfifoFast "tc_prio_qopt" 20 members := by
  refine lawful_layout.liesAs fun qdisc => ?_
  -- The bytes of the array are no known list, so what follows them does not vanish by computation.
  have bytes : (Structure.pack members qdisc).val =
      Layout.int32.write qdisc.bands ++ (qdisc.bandOfPriority.val ++ []) ++ [] := by
    rw [members, int32_eq]
    rfl
  rw [bytes, List.append_nil, List.append_nil]
  rfl

end PfifoFast

/-! ## All together -/

theorem Error.message_truncated (what : String) (expected actual : Nat) :
    (Error.truncated what expected actual).message =
      "invalid wire format: " ++ what ++ " truncated: expected " ++ toString expected ++
        " bytes, got " ++ toString actual := by
  have fault : (WireFault.truncated what expected actual).message =
      what ++ " truncated: expected " ++ toString expected ++ " bytes, got " ++
        toString actual := rfl
  have whole : (Error.truncated what expected actual).message =
      "invalid wire format: " ++ (WireFault.truncated what expected actual).message := rfl
  rw [whole, fault]
  simp only [String.append_assoc]

/-- What holds of the structures of the kernel's interface. -/
structure KernelStructures : Prop where
  messageHeader : Record.LiesAs MessageHeader "nlmsghdr" 16 MessageHeader.members
  errorReport : Record.LiesAs ErrorReport "nlmsgerr" 20 ErrorReport.members
  attributeHeader : Record.LiesAs AttributeHeader "attribute header" 4 AttributeHeader.members
  traffic : Record.LiesAs TrafficRecord "tcmsg" 20 TrafficRecord.members
  link : Record.LiesAs LinkRecord "ifinfomsg" 16 LinkRecord.members
  rateSpec : Record.LiesAs RateSpec "tc_ratespec" 12 RateSpec.members
  htbParameters : Record.LiesAs HtbParameters "tc_htb_opt" 44 HtbParameters.members
  htbGlobals : Record.LiesAs HtbGlobals "tc_htb_glob" 20 HtbGlobals.members
  netemBase : Record.LiesAs NetemBase "tc_netem_qopt" 24 NetemBase.members
  netemCorrelation : Record.LiesAs NetemCorrelation "tc_netem_corr" 12 NetemCorrelation.members
  netemReorder : Record.LiesAs NetemReorder "tc_netem_reorder" 8 NetemReorder.members
  netemCorrupt : Record.LiesAs NetemCorrupt "tc_netem_corrupt" 8 NetemCorrupt.members
  netemRate : Record.LiesAs NetemRate "tc_netem_rate" 16 NetemRate.members
  serviceCurve : Record.LiesAs ServiceCurve "tc_service_curve" 12 ServiceCurve.members
  hfscQdisc : Record.LiesAs HfscQdisc "tc_hfsc_qopt" 2 HfscQdisc.members
  pfifoFast : Record.LiesAs PfifoFast "tc_prio_qopt" 20 PfifoFast.members
  /-- A record that is cut short is a fault of the wire format, told with both lengths. -/
  truncated : ∀ (what : String) (expected actual : Nat),
    (Error.truncated what expected actual).isWireFormat = true ∧
    (Error.truncated what expected actual).message =
      "invalid wire format: " ++ what ++ " truncated: expected " ++ toString expected ++
        " bytes, got " ++ toString actual

/-- All sixteen are read from the front of a byte string, whatever follows, exactly when it is long
enough, and no byte is lost on the way there and back. -/
theorem kernelStructures : KernelStructures where
  messageHeader := MessageHeader.liesAs
  errorReport := ErrorReport.liesAs
  attributeHeader := AttributeHeader.liesAs
  traffic := TrafficRecord.liesAs
  link := LinkRecord.liesAs
  rateSpec := RateSpec.liesAs
  htbParameters := HtbParameters.liesAs
  htbGlobals := HtbGlobals.liesAs
  netemBase := NetemBase.liesAs
  netemCorrelation := NetemCorrelation.liesAs
  netemReorder := NetemReorder.liesAs
  netemCorrupt := NetemCorrupt.liesAs
  netemRate := NetemRate.liesAs
  serviceCurve := ServiceCurve.liesAs
  hfscQdisc := HfscQdisc.liesAs
  pfifoFast := PfifoFast.liesAs
  truncated what expected actual := ⟨rfl, Error.message_truncated what expected actual⟩

/-- Bytes of which no two are alike. -/
def counted : Bytes :=
  [1, 2, 3, 4, 5, 6, 7, 8, 9, 10, 11, 12, 13, 14, 15, 16, 17, 18, 19, 20, 21, 22]

/-- The record that they begin with. -/
def countedRecord : TrafficRecord :=
  ⟨1, 2, 0x0403, 0x08070605, ⟨0x0C0B0A09⟩, ⟨0x100F0E0D⟩, 0x14131211⟩

theorem kernelStructures_counted :
    Record.read TrafficRecord counted = .ok countedRecord ∧
      Record.toBytes countedRecord = counted.take 20 ∧
      Record.read HtbParameters counted = .error (.truncated "tc_htb_opt" 44 22) := by
  have traffic := kernelStructures.traffic
  have parameters := kernelStructures.htbParameters
  have whole : counted = Record.toBytes countedRecord ++ [21, 22] := by decide
  have read : Record.read TrafficRecord counted = .ok countedRecord := by
    rw [traffic.read_eq, whole]
    exact traffic.readAs_append "tcmsg" countedRecord [21, 22]
  refine ⟨read, traffic.toBytes_of_readAs "tcmsg" counted countedRecord read, ?_⟩
  rw [parameters.read_eq]
  exact parameters.readAs_of_lt "tc_htb_opt" counted (by decide)

end TrafficShaping
