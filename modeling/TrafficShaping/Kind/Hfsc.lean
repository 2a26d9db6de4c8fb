import TrafficShaping.Wire.Attribute

/-!
The hierarchical fair service curve: a qdisc, and classes with up to three service curves.
-/

namespace TrafficShaping

/-! ## Qdisc -/

/-- The parameters of an HFSC qdisc as one record. -/
structure HfscQdisc where
  /-- The minor number of the default class. -/
  defaultClass : UInt16
  deriving DecidableEq, Repr

namespace HfscQdisc

instance : Record HfscQdisc where
  name := "tc_hfsc_qopt"
  layout := Layout.uint16.map HfscQdisc.mk HfscQdisc.defaultClass

theorem lawful_layout : (Record.layout : Layout HfscQdisc).Lawful :=
  Layout.lawful_uint16.map (fun _ => rfl) (fun _ => rfl)

/-- The options that carry the parameters. -/
def encode (qdisc : HfscQdisc) : Bytes := Record.toBytes qdisc

/-- The parameters that options carry; without options there is no default class. -/
def decode (options : Option Bytes) : Except Error HfscQdisc :=
  match options with
  | none => .ok ⟨0⟩
  | some data => Record.read HfscQdisc data

end HfscQdisc

/-! ## Service curves -/

/-- A service curve of two segments. -/
structure ServiceCurve where
  /-- The slope of the first segment in bytes per second. -/
  firstSlope : UInt32
  /-- The duration of the first segment in microseconds. -/
  duration : UInt32
  /-- The slope of the second segment in bytes per second. -/
  secondSlope : UInt32
  deriving DecidableEq, Repr

namespace ServiceCurve

instance : Record ServiceCurve where
  name := "tc_service_curve"
  layout := (Layout.uint32.pair (Layout.uint32.pair Layout.uint32)).map
    (fun (firstSlope, duration, secondSlope) => ⟨firstSlope, duration, secondSlope⟩)
    (fun curve => (curve.firstSlope, curve.duration, curve.secondSlope))

theorem lawful_layout : (Record.layout : Layout ServiceCurve).Lawful :=
  Layout.Lawful.map
    (Layout.lawful_uint32.pair (Layout.lawful_uint32.pair Layout.lawful_uint32))
    (fun _ => rfl) (fun _ => rfl)

/-- The curve without service. -/
def zero : ServiceCurve := ⟨0, 0, 0⟩

/-- The curve whose slopes are given in bits per second. -/
def ofBits (firstSlope duration secondSlope : UInt32) : ServiceCurve :=
  ⟨firstSlope / 8, duration, secondSlope / 8⟩

/-- Whether both slopes are zero, in which case the kernel does not install the curve. -/
def isZero (curve : ServiceCurve) : Bool := curve.firstSlope == 0 && curve.secondSlope == 0

end ServiceCurve

/-! ## Class -/

/-- What a service curve of a class is for. -/
inductive CurveRole where
  /-- Guarantees in real time. -/
  | realTime
  /-- The share of what is left over. -/
  | linkShare
  /-- An upper limit. -/
  | upperLimit
  deriving DecidableEq, Repr

namespace CurveRole

/-- The tag of the curve among the options of a class. -/
def tag : CurveRole → UInt16
  | realTime => 1
  | linkShare => 2
  | upperLimit => 3

/-- The role of a tag. -/
def ofTag? (tag : UInt16) : Option CurveRole :=
  [realTime, linkShare, upperLimit].find? (·.tag == tag)

end CurveRole

/-- The curves of an HFSC class. -/
structure HfscClass where
  /-- Guarantees in real time. -/
  realTime : ServiceCurve
  /-- The share of what is left over. -/
  linkShare : ServiceCurve
  /-- An upper limit. -/
  upperLimit : ServiceCurve
  deriving DecidableEq, Repr

namespace HfscClass

/-- The class without curves. -/
def empty : HfscClass := ⟨.zero, .zero, .zero⟩

/-- The curve of a role. -/
def curve (hclass : HfscClass) : CurveRole → ServiceCurve
  | .realTime => hclass.realTime
  | .linkShare => hclass.linkShare
  | .upperLimit => hclass.upperLimit

/-- The class with another curve in a role. -/
def withCurve (hclass : HfscClass) (role : CurveRole) (curve : ServiceCurve) : HfscClass :=
  match role with
  | .realTime => { hclass with realTime := curve }
  | .linkShare => { hclass with linkShare := curve }
  | .upperLimit => { hclass with upperLimit := curve }

/-- The class with one curve for guarantees and share. -/
def withService (hclass : HfscClass) (curve : ServiceCurve) : HfscClass :=
  (hclass.withCurve .realTime curve).withCurve .linkShare curve

/-- The options that carry the curves, absent ones included. -/
def encode (hclass : HfscClass) : Except Error Bytes :=
  Attribute.writeAll <|
    [CurveRole.realTime, .linkShare, .upperLimit].map fun role =>
      .ofRecord role.tag (hclass.curve role)

/-- The class with the curve of one more attribute. -/
def apply (hclass : HfscClass) (found : Tagged) : Except Error HfscClass :=
  match CurveRole.ofTag? found.tag with
  | some role => (Record.read ServiceCurve found.payload).map (hclass.withCurve role)
  | none => .ok hclass

/-- The curves that options carry, of which the last in each role counts. -/
def decode (options : Option Bytes) : Except Error HfscClass :=
  match options with
  | none => .ok empty
  | some data => do
    let found ← Tagged.parse data
    found.foldlM apply empty

end HfscClass

end TrafficShaping
