import TrafficShaping.Class
import TrafficShaping.Proofs.Kind.Hfsc
import TrafficShaping.Proofs.Kind.Htb

/-!
The options of a class carry all its settings.

The kind of a class is not in the options but in its name, so a class with the name of a known kind
and options that are not looked into is read as something else; `ClassSettings.HasOwnKind` excludes
it. For all others `Class.exists_encode_decode` is the round trip.
-/

namespace TrafficShaping

@[simp] theorem ClassKind.ofName?_name (kind : ClassKind) : ofName? kind.name = some kind := by
  cases kind with
  | htb => rfl
  | hfsc => rfl

theorem ClassKind.name_of_ofName? {name : String} {kind : ClassKind}
    (known : ofName? name = some kind) : kind.name = name := by
  unfold ofName? at known
  have named := List.find?_some known
  exact eq_of_beq named

namespace ClassSettings

/-- Whether the settings are read as those of their own kind: options that are not looked into do
not go under the name of a known kind. -/
def HasOwnKind : ClassSettings → Prop
  | htb _ | hfsc _ => True
  | generic name _ => ClassKind.ofName? name = none

instance : DecidablePred HasOwnKind
  | htb _ | hfsc _ => inferInstanceAs (Decidable True)
  | generic name _ => inferInstanceAs (Decidable (ClassKind.ofName? name = none))

theorem decode_name (kind : ClassKind) (options : Option Bytes) :
    decode kind.name options = decodeKind kind options := by
  unfold decode
  rw [ClassKind.ofName?_name]

theorem decode_of_unknown {name : String} {options : Option Bytes}
    (unknown : ClassKind.ofName? name = none) :
    decode name options = .ok (generic name options) := by
  unfold decode
  rw [unknown]

/-- The settings that are read under a name have that name. -/
theorem kindName_of_decode {name : String} {options : Option Bytes}
    {settings : ClassSettings} (read : decode name options = .ok settings) :
    settings.kindName = name := by
  unfold decode at read
  split at read
  · next kind known =>
      have named : kind.name = name := ClassKind.name_of_ofName? known
      rw [← named]
      cases kind with
      | htb =>
          obtain ⟨_, _, rfl⟩ := Outcome.map_eq_ok.mp read
          rfl
      | hfsc =>
          obtain ⟨_, _, rfl⟩ := Outcome.map_eq_ok.mp read
          rfl
  · cases read
    rfl

/-- Settings of any kind are written, and read again under the name of the kind. -/
theorem exists_encode (settings : ClassSettings) (clock : Clock) :
    ∃ options, settings.encode clock = .ok options ∧
      (settings.HasOwnKind → decode settings.kindName options = .ok settings) := by
  cases settings with
  | htb parameters =>
      obtain ⟨data, written, read⟩ := parameters.exists_encode clock
      refine ⟨some data, ?_, fun _ => ?_⟩
      · rw [encode, written]
        rfl
      · rw [kindName, decode_name, decodeKind, read]
        rfl
  | hfsc curves =>
      obtain ⟨data, written, read⟩ := curves.exists_encode
      refine ⟨some data, ?_, fun _ => ?_⟩
      · rw [encode, written]
        rfl
      · rw [kindName, decode_name, decodeKind, read]
        rfl
  | generic name options => exact ⟨options, rfl, decode_of_unknown⟩

end ClassSettings

namespace Class

/-- The options of a class can always be written, whatever the clock, and the class that is read
from them differs only in what the options do not carry: its place and its statistics. -/
theorem exists_encode_decode {tclass : Class} (own : tclass.settings.HasOwnKind) (clock : Clock)
    (place : Placement) (statistics : Statistics) :
    ∃ options, tclass.settings.encode clock = .ok options ∧
      Class.decode tclass.kindName place statistics options =
        .ok { tclass with place, statistics } := by
  obtain ⟨options, written, read⟩ := tclass.settings.exists_encode clock
  exact ⟨options, written, Outcome.bind_eq_ok.mpr ⟨tclass.settings, read own, rfl⟩⟩

/-- A class whose guaranteed rate needs 64 bits and whose ceiling is the largest word. -/
def wideRate : Class :=
  .ofSettings ⟨2, .ofParts 1 0x10, .ofParts 1 0⟩
    (.htb ⟨5000000000, 0xFFFFFFFF, 1600, 1600, 1500, 0, 7⟩)

/-- A class of a kind that is not known, with five bytes of options. -/
def unknownKind : Class :=
  .ofSettings ⟨2, .ofParts 1 0x20, .ofParts 1 0⟩ (.generic "drr" (some [8, 0, 1, 0, 1]))

theorem exists_encode_decode_wideRate :
    (wideRate.settings.HasOwnKind ∧
      ∃ options, wideRate.settings.encode .highResolution = .ok options ∧
        Class.decode "htb" unknownKind.place .zero options =
          .ok { wideRate with place := unknownKind.place, statistics := .zero }) ∧
    (unknownKind.settings.HasOwnKind ∧
      ∃ options, unknownKind.settings.encode .highResolution = .ok options ∧
        Class.decode "drr" wideRate.place .zero options =
          .ok { unknownKind with place := wideRate.place, statistics := .zero }) := by
  have known : wideRate.settings.HasOwnKind := trivial
  have unknown : unknownKind.settings.HasOwnKind := by decide
  exact ⟨⟨known, exists_encode_decode known _ _ _⟩, ⟨unknown, exists_encode_decode unknown _ _ _⟩⟩

end Class

end TrafficShaping
