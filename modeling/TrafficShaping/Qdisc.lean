import TrafficShaping.Handle
import TrafficShaping.Kind.Hfsc
import TrafficShaping.Kind.Htb
import TrafficShaping.Kind.Netem
import TrafficShaping.Kind.PfifoFast
import TrafficShaping.Statistics

/-!
Qdiscs: queueing disciplines that are attached to links and classes.

A qdisc has a place, which is the same for all kinds, and settings, which say its kind. A kind whose
options are not understood keeps them as they are. `QdiscSettings.encode` writes the options of a
qdisc and `QdiscSettings.decode` reads those of a kind.
-/

namespace TrafficShaping

/-- Where a qdisc or a class is. -/
structure Placement where
  link : UInt32
  handle : Handle
  parent : Handle
  deriving DecidableEq, Repr

/-- The kinds of qdiscs whose options are understood. -/
inductive QdiscKind where
  | htb
  | netem
  | hfsc
  /-- Three bands, the default of the kernel. -/
  | pfifoFast
  /-- The place where received packets can be filtered. -/
  | ingress
  deriving DecidableEq, Repr

namespace QdiscKind

/-- All kinds. -/
def all : List QdiscKind := [.htb, .netem, .hfsc, .pfifoFast, .ingress]

/-- The name that the kernel has for a kind. -/
def name : QdiscKind → String
  | htb => "htb"
  | netem => "netem"
  | hfsc => "hfsc"
  | pfifoFast => "pfifo_fast"
  | ingress => "ingress"

/-- The kind of a name. -/
def ofName? (name : String) : Option QdiscKind := all.find? (·.name == name)

end QdiscKind

/-- The kind of a qdisc and what goes with it. -/
inductive QdiscSettings where
  | htb (parameters : HtbQdisc)
  | netem (settings : Netem)
  | hfsc (parameters : HfscQdisc)
  /-- Three bands, the default of the kernel. -/
  | pfifoFast (bands : PfifoFast)
  /-- The place where received packets can be filtered. -/
  | ingress
  /-- A qdisc of any name with options that are not looked into. -/
  | generic (name : String) (options : Option Bytes)
  deriving DecidableEq, Repr

namespace QdiscSettings

/-- The name that the kernel has for the kind. -/
def kindName : QdiscSettings → String
  | htb _ => QdiscKind.htb.name
  | netem _ => QdiscKind.netem.name
  | hfsc _ => QdiscKind.hfsc.name
  | pfifoFast _ => QdiscKind.pfifoFast.name
  | ingress => QdiscKind.ingress.name
  | generic name _ => name

/-- The options that carry the settings; `none` when the request is to have no options. -/
def encode (settings : QdiscSettings) (clock : Clock) : Except Error (Option Bytes) :=
  match settings with
  | htb parameters => parameters.encode.map some
  | netem settings => (settings.encode clock).map some
  | hfsc parameters => .ok (some parameters.encode)
  | pfifoFast bands => .ok (some bands.encode)
  | ingress => .ok none
  | generic _ options => .ok options

/-- The settings that options of a known kind carry. -/
def decodeKind (kind : QdiscKind) (options : Option Bytes) (clock : Clock) :
    Except Error QdiscSettings :=
  match kind with
  | .htb => (HtbQdisc.decode options).map htb
  | .netem => (Netem.decode options clock).map netem
  | .hfsc => (HfscQdisc.decode options).map hfsc
  | .pfifoFast => (PfifoFast.decode options).map pfifoFast
  | .ingress => .ok ingress

/-- The settings that options of a kind carry. Those of a kind that is not known are kept. -/
def decode (name : String) (options : Option Bytes) (clock : Clock) : Except Error QdiscSettings :=
  match QdiscKind.ofName? name with
  | some kind => decodeKind kind options clock
  | none => .ok (generic name options)

end QdiscSettings

/-- A qdisc. -/
structure Qdisc where
  place : Placement
  /-- How often the kernel uses it, when the kernel reports it. -/
  references : Option UInt32
  /-- What the kernel counted. -/
  statistics : Statistics
  settings : QdiscSettings
  deriving DecidableEq, Repr

namespace Qdisc

/-- A qdisc that the kernel has not reported on. -/
def ofSettings (place : Placement) (settings : QdiscSettings) : Qdisc :=
  ⟨place, none, .zero, settings⟩

/-- The ingress qdisc of a link, the place of which is fixed. -/
def ofIngress (link : UInt32) : Qdisc :=
  ofSettings ⟨link, .ofParts 0xFFFF 0, .ingress⟩ .ingress

/-- The name that the kernel has for the kind. -/
def kindName (qdisc : Qdisc) : String := qdisc.settings.kindName

/-- The qdisc whose settings options of a kind carry, with what else is known of it. -/
def decode (name : String) (place : Placement) (references : Option UInt32)
    (statistics : Statistics) (options : Option Bytes) (clock : Clock) : Except Error Qdisc := do
  let settings ← QdiscSettings.decode name options clock
  .ok ⟨place, references, statistics, settings⟩

end Qdisc

end TrafficShaping
