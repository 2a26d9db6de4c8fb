import TrafficShaping.Proofs.Kind.Hfsc
import TrafficShaping.Proofs.Kind.Htb
import TrafficShaping.Proofs.Kind.Netem
import TrafficShaping.Qdisc

/-!
The options of a qdisc carry its settings, but for some of an emulator.

As for classes, `QdiscSettings.HasOwnKind` excludes options that are not looked into under the name
of a known kind. An emulator that reorders without delay is the only qdisc whose options are not
written, and `QdiscSettings.carried` says what is read again of all others.
-/

namespace TrafficShaping

@[simp] theorem QdiscKind.ofName?_name (kind : QdiscKind) : ofName? kind.name = some kind := by
  cases kind with
  | htb => rfl
  | netem => rfl
  | hfsc => rfl
  | pfifoFast => rfl
  | ingress => rfl

theorem QdiscKind.name_of_ofName? {name : String} {kind : QdiscKind}
    (known : ofName? name = some kind) : kind.name = name := by
  unfold ofName? at known
  have named := List.find?_some known
  exact eq_of_beq named

@[simp] theorem PfifoFast.decode_encode (qdisc : PfifoFast) :
    decode (some qdisc.encode) = .ok qdisc :=
  lawful_layout.read_toBytes qdisc

namespace QdiscSettings

/-- Whether the settings are read as those of their own kind: options that are not looked into do
not go under the name of a known kind. -/
def HasOwnKind : QdiscSettings → Prop
  | htb _ | netem _ | hfsc _ | pfifoFast _ | ingress => True
  | generic name _ => QdiscKind.ofName? name = none

instance : DecidablePred HasOwnKind
  | htb _ | netem _ | hfsc _ | pfifoFast _ | ingress => inferInstanceAs (Decidable True)
  | generic name _ => inferInstanceAs (Decidable (QdiscKind.ofName? name = none))

/-- Whether packets are to be reordered without a delay to do it in. -/
def NeedsDelay : QdiscSettings → Prop
  | netem settings => settings.NeedsDelay
  | htb _ | hfsc _ | pfifoFast _ | ingress | generic _ _ => False

instance : DecidablePred NeedsDelay
  | netem settings => inferInstanceAs (Decidable settings.NeedsDelay)
  | htb _ | hfsc _ | pfifoFast _ | ingress | generic _ _ => inferInstanceAs (Decidable False)

/-- The settings that options carry. -/
def carried (clock : Clock) : QdiscSettings → QdiscSettings
  | netem settings => netem (settings.carried clock)
  | other => other

variable {settings : QdiscSettings}

theorem decode_name (kind : QdiscKind) (options : Option Bytes) (clock : Clock) :
    decode kind.name options clock = decodeKind kind options clock := by
  unfold decode
  rw [QdiscKind.ofName?_name]

theorem decode_of_unknown {name : String} (unknown : QdiscKind.ofName? name = none)
    (options : Option Bytes) (clock : Clock) :
    decode name options clock = .ok (generic name options) := by
  unfold decode
  rw [unknown]

/-- The settings that are read under a name have that name. -/
theorem kindName_of_decode {name : String} {options : Option Bytes} {clock : Clock}
    (read : decode name options clock = .ok settings) :
    settings.kindName = name := by
  unfold decode at read
  split at read
  · next kind known =>
      have named : kind.name = name := QdiscKind.name_of_ofName? known
      rw [← named]
      cases kind with
      | htb =>
          obtain ⟨_, _, rfl⟩ := Outcome.map_eq_ok.mp read
          rfl
      | netem =>
          obtain ⟨_, _, rfl⟩ := Outcome.map_eq_ok.mp read
          rfl
      | hfsc =>
          obtain ⟨_, _, rfl⟩ := Outcome.map_eq_ok.mp read
          rfl
      | pfifoFast =>
          obtain ⟨_, _, rfl⟩ := Outcome.map_eq_ok.mp read
          rfl
      | ingress =>
          cases read
          rfl
  · cases read
    rfl

theorem encode_of_needsDelay (needs : settings.NeedsDelay) (clock : Clock) :
    settings.encode clock = .error (.config .reorderWithoutLatency) := by
  cases settings with
  | netem settings =>
      rw [encode, Netem.encode_of_needsDelay needs]
      rfl
  | htb _ | hfsc _ | pfifoFast _ | ingress | generic _ _ => cases needs

/-- Settings that need no delay are written. -/
theorem exists_encode_eq_ok (allowed : ¬ settings.NeedsDelay) (clock : Clock) :
    ∃ options, settings.encode clock = .ok options ∧
      (settings.HasOwnKind →
        decode settings.kindName options clock = .ok (settings.carried clock)) := by
  cases settings with
  | htb parameters =>
      obtain ⟨data, written, read⟩ := parameters.exists_encode
      refine ⟨some data, ?_, fun _ => ?_⟩
      · rw [encode, written]
        rfl
      · rw [kindName, decode_name, decodeKind, read]
        rfl
  | netem settings =>
      obtain ⟨data, written, read⟩ := Netem.exists_encode allowed clock
      refine ⟨some data, ?_, fun _ => ?_⟩
      · rw [encode, written]
        rfl
      · rw [kindName, decode_name, decodeKind, read]
        rfl
  | hfsc parameters =>
      refine ⟨some parameters.encode, rfl, fun _ => ?_⟩
      rw [kindName, decode_name, decodeKind, parameters.decode_encode]
      rfl
  | pfifoFast bands =>
      refine ⟨some bands.encode, rfl, fun _ => ?_⟩
      rw [kindName, decode_name, decodeKind, bands.decode_encode]
      rfl
  | ingress =>
      refine ⟨none, rfl, fun _ => ?_⟩
      rw [kindName, decode_name]
      rfl
  | generic name options => exact ⟨options, rfl, fun own => decode_of_unknown own options clock⟩

theorem encode_eq_error_iff (settings : QdiscSettings) (clock : Clock) (error : Error) :
    settings.encode clock = .error error ↔
      settings.NeedsDelay ∧ error = .config .reorderWithoutLatency := by
  by_cases needs : settings.NeedsDelay
  · rw [encode_of_needsDelay needs]
    refine ⟨fun failed => ⟨needs, (Except.error.inj failed).symm⟩, ?_⟩
    rintro ⟨_, rfl⟩
    rfl
  · obtain ⟨options, written, _⟩ := exists_encode_eq_ok needs clock
    rw [written]
    exact ⟨fun failed => (nomatch failed), fun ⟨needed, _⟩ => absurd needed needs⟩

end QdiscSettings

namespace Qdisc

/-- The options of a qdisc are refused exactly when it reorders without delay. Otherwise the qdisc
that is read from them has the settings that options carry, and differs besides only in what they do
not: its place, its references and its statistics. -/
theorem encode_decode {qdisc : Qdisc} (own : qdisc.settings.HasOwnKind) (clock : Clock)
    (place : Placement) (references : Option UInt32) (statistics : Statistics) :
    (∀ error, qdisc.settings.encode clock = .error error ↔
      qdisc.settings.NeedsDelay ∧ error = .config .reorderWithoutLatency) ∧
    (¬ qdisc.settings.NeedsDelay →
      ∃ options, qdisc.settings.encode clock = .ok options ∧
        Qdisc.decode qdisc.kindName place references statistics options clock =
          .ok ⟨place, references, statistics, qdisc.settings.carried clock⟩) := by
  refine ⟨qdisc.settings.encode_eq_error_iff clock, ?_⟩
  intro allowed
  obtain ⟨options, written, read⟩ := QdiscSettings.exists_encode_eq_ok allowed clock
  exact ⟨options, written, Outcome.bind_eq_ok.mpr ⟨_, read own, rfl⟩⟩

/-- An emulator that reorders without correlation, with correlated damage, at a rate above the
largest word. -/
def reordering : Qdisc :=
  .ofSettings ⟨2, .ofParts 1 0, .root⟩
    (.netem { Netem.empty with
      latency := 100000
      limit := 1000
      gap := 5
      reorder := ⟨0x40000000⟩
      corrupt := ⟨0x0147AE14⟩
      corruptCorrelation := ⟨0x80000000⟩
      rate := some 5000000000 })

theorem encode_decode_reordering :
    reordering.settings.HasOwnKind ∧ ¬ reordering.settings.NeedsDelay ∧
      ∃ options, reordering.settings.encode .highResolution = .ok options ∧
        Qdisc.decode "netem" reordering.place none .zero options .highResolution =
          .ok ⟨reordering.place, none, .zero, reordering.settings.carried .highResolution⟩ := by
  have own : reordering.settings.HasOwnKind := trivial
  have allowed : ¬ reordering.settings.NeedsDelay := by decide
  exact ⟨own, allowed, (encode_decode own .highResolution reordering.place none .zero).2 allowed⟩

end Qdisc

end TrafficShaping
