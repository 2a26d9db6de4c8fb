import TrafficShaping.Qdisc

/-!
Classes: the parts of a qdisc among which it divides the rate.

A class has a place and settings, as a qdisc has. `ClassSettings.encode` writes the options of a
class and `ClassSettings.decode` reads those of a kind.
-/

namespace TrafficShaping

/-- The kinds of classes whose options are understood. -/
inductive ClassKind where
  | htb
  | hfsc
  deriving DecidableEq, Repr

namespace ClassKind

/-- All kinds. -/
def all : List ClassKind := [.htb, .hfsc]

/-- The name that the kernel has for a kind. -/
def name : ClassKind → String
  | htb => "htb"
  | hfsc => "hfsc"

/-- The kind of a name. -/
def ofName? (name : String) : Option ClassKind := all.find? (·.name == name)

end ClassKind

/-- The kind of a class and what goes with it. -/
inductive ClassSettings where
  | htb (parameters : HtbClass)
  | hfsc (curves : HfscClass)
  /-- A class of any name with options that are not looked into. -/
  | generic (name : String) (options : Option Bytes)
  deriving DecidableEq, Repr

namespace ClassSettings

/-- The name that the kernel has for the kind. -/
def kindName : ClassSettings → String
  | htb _ => ClassKind.htb.name
  | hfsc _ => ClassKind.hfsc.name
  | generic name _ => name

/-- The options that carry the settings; `none` when the request is to have no options. -/
def encode (settings : ClassSettings) (clock : Clock) : Except Error (Option Bytes) :=
  match settings with
  | htb parameters => (parameters.encode clock).map some
  | hfsc curves => curves.encode.map some
  | generic _ options => .ok options

/-- The settings that options of a known kind carry. -/
def decodeKind (kind : ClassKind) (options : Option Bytes) : Except Error ClassSettings :=
  match kind with
  | .htb => (HtbClass.decode options).map htb
  | .hfsc => (HfscClass.decode options).map hfsc

/-- The settings that options of a kind carry. Those of a kind that is not known are kept. -/
def decode (name : String) (options : Option Bytes) : Except Error ClassSettings :=
  match ClassKind.ofName? name with
  | some kind => decodeKind kind options
  | none => .ok (generic name options)

end ClassSettings

/-- A class. -/
structure Class where
  place : Placement
  /-- What the kernel counted. -/
  statistics : Statistics
  settings : ClassSettings
  deriving DecidableEq, Repr

namespace Class

/-- A class that the kernel has not reported on. -/
def ofSettings (place : Placement) (settings : ClassSettings) : Class := ⟨place, .zero, settings⟩

/-- The name that the kernel has for the kind. -/
def kindName (tclass : Class) : String := tclass.settings.kindName

/-- The class whose settings options of a kind carry, with what else is known of it. No clock is
needed, since classes keep their times in ticks. -/
def decode (name : String) (place : Placement) (statistics : Statistics)
    (options : Option Bytes) : Except Error Class := do
  let settings ← ClassSettings.decode name options
  .ok ⟨place, statistics, settings⟩

end Class

end TrafficShaping
