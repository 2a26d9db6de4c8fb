import TrafficShaping.Client.Dump

/-!
What can be wrong with bytes that were received.

Reading them fails only by bytes that are not what their format asks for: `OnlyWireFaults` is kept
when two readings follow each other and when a reading goes over a sequence of attributes, and it
holds of every layout, text and sequence of attributes. It holds of the options of every kind, then,
of statistics in either form and of what a message tells of a qdisc or a class, whatever the bytes.
-/

namespace TrafficShaping

/-- The outcome of a reading that fails, if at all, by bytes that are not what their format asks
for. -/
def OnlyWireFaults {α : Type} (outcome : Except Error α) : Prop :=
  ∀ error, outcome = .error error → ∃ fault, error = .wireFormat fault

/-! ## Steps -/

namespace OnlyWireFaults

variable {α β : Type}

theorem ok (a : α) : OnlyWireFaults (.ok a) := fun _ failed => (nomatch failed)

theorem fault (fault : WireFault) : OnlyWireFaults (.error (.wireFormat fault) : Except Error α) :=
  fun _ failed => ⟨fault, (Except.error.inj failed).symm⟩

theorem bind {first : Except Error α} {next : α → Except Error β} (here : OnlyWireFaults first)
    (there : ∀ a, OnlyWireFaults (next a)) : OnlyWireFaults (first >>= next) := by
  intro error failed
  cases first with
  | error cause =>
      cases failed
      exact here error rfl
  | ok a => exact there a error failed

theorem map {outcome : Except Error α} (here : OnlyWireFaults outcome) (f : α → β) :
    OnlyWireFaults (outcome.map f) := by
  intro error failed
  cases outcome with
  | error cause =>
      cases failed
      exact here error rfl
  | ok a => cases failed

theorem foldlM {step : β → α → Except Error β} (each : ∀ b a, OnlyWireFaults (step b a))
    (b : β) (rest : List α) : OnlyWireFaults (rest.foldlM step b) := by
  induction rest generalizing b with
  | nil => exact ok b
  | cons a rest ih =>
      rw [List.foldlM_cons]
      exact (each b a).bind ih

end OnlyWireFaults

/-! ## Layouts, attributes and payloads -/

theorem Layout.onlyWireFaults_readFrontAs {α : Type} (layout : Layout α) (what : String)
    (data : Bytes) : OnlyWireFaults (layout.readFrontAs what data) := by
  unfold Layout.readFrontAs
  split
  · exact .ok _
  · exact .fault _

theorem Layout.onlyWireFaults_readAs {α : Type} (layout : Layout α) (what : String)
    (data : Bytes) : OnlyWireFaults (layout.readAs what data) :=
  (layout.onlyWireFaults_readFrontAs what data).map _

theorem Record.onlyWireFaults_readFront (α : Type) [Record α] (data : Bytes) :
    OnlyWireFaults (readFront α data) := layout.onlyWireFaults_readFrontAs _ data

theorem Record.onlyWireFaults_read (α : Type) [Record α] (data : Bytes) :
    OnlyWireFaults (read α data) := (onlyWireFaults_readFront α data).map _

theorem Tagged.onlyWireFaults_parseFrom (offset : Nat) (data : Bytes) :
    OnlyWireFaults (parseFrom offset data) := by
  induction offset, data using parseFrom.induct with
  | case1 offset data empty =>
      rw [parseFrom, if_pos empty]
      exact .ok []
  | case2 offset data some first rest taken ih =>
      rw [parseFrom, if_neg some]
      split
      · next taken' =>
          cases taken.symm.trans taken'
          exact ih.map _
      · next missing => cases taken.symm.trans missing
  | case3 offset data some missing short =>
      rw [parseFrom, if_neg some]
      split
      · next taken => cases missing.symm.trans taken
      · rw [if_pos short]
        exact .fault _
  | case4 offset data some missing long =>
      rw [parseFrom, if_neg some]
      split
      · next taken => cases missing.symm.trans taken
      · rw [if_neg long]
        exact .fault _

theorem Tagged.onlyWireFaults_parse (data : Bytes) : OnlyWireFaults (parse data) :=
  onlyWireFaults_parseFrom 0 data

theorem Payload.onlyWireFaults_readText (payload : Bytes) : OnlyWireFaults (readText payload) := by
  unfold readText
  split
  · exact .ok _
  · exact .fault _

/-! ## Statistics -/

namespace Statistics

theorem onlyWireFaults_readTraffic (payload : Bytes) : OnlyWireFaults (readTraffic payload) :=
  (trafficLayout.onlyWireFaults_readAs _ payload).map _

theorem Reading.onlyWireFaults_add (reading : Reading) (block : Tagged) :
    OnlyWireFaults (reading.add block) := by
  unfold Reading.add
  dsimp only
  split
  · exact (onlyWireFaults_readTraffic _).bind fun _ => .ok _
  split
  · exact (onlyWireFaults_readTraffic _).bind fun _ => .ok _
  split
  · exact (Layout.onlyWireFaults_readAs _ _ _).bind fun _ => .ok _
  split
  · exact (Layout.onlyWireFaults_readAs _ _ _).bind fun _ => .ok _
  split
  · exact (Layout.onlyWireFaults_readAs _ _ _).bind fun _ => .ok _
  split
  · exact (Layout.onlyWireFaults_readAs _ _ _).bind fun _ => .ok _
  · exact .ok reading

theorem onlyWireFaults_ofBlocks (data : Bytes) : OnlyWireFaults (ofBlocks data) :=
  (Tagged.onlyWireFaults_parse data).bind fun blocks =>
    (OnlyWireFaults.foldlM Reading.onlyWireFaults_add _ blocks).bind fun _ => .ok _

theorem onlyWireFaults_ofFlat (data : Bytes) : OnlyWireFaults (ofFlat data) :=
  (flatLayout.onlyWireFaults_readAs _ data).map _

theorem onlyWireFaults_ofAttributes (found : List Tagged) :
    OnlyWireFaults (ofAttributes found) := by
  unfold ofAttributes
  split
  · exact onlyWireFaults_ofBlocks _
  split
  · exact onlyWireFaults_ofFlat _
  · exact .ok zero

end Statistics

/-! ## Options -/

theorem HtbQdisc.onlyWireFaults_apply (qdisc : HtbQdisc) (found : Tagged) :
    OnlyWireFaults (qdisc.apply found) := by
  unfold apply
  split
  · exact (Record.onlyWireFaults_read _ _).map _
  split
  · exact (Layout.onlyWireFaults_readAs _ _ _).map _
  · exact .ok qdisc

theorem HtbQdisc.onlyWireFaults_decode (options : Option Bytes) :
    OnlyWireFaults (decode options) := by
  cases options with
  | none => exact .ok standard
  | some data =>
      exact (Tagged.onlyWireFaults_parse data).bind fun found =>
        OnlyWireFaults.foldlM onlyWireFaults_apply standard found

theorem HtbClass.onlyWireFaults_readRate (found : List Tagged) (tag : UInt16) (low : UInt32) :
    OnlyWireFaults (readRate found tag low) := by
  unfold readRate
  split
  · exact Layout.onlyWireFaults_readAs _ _ _
  · exact .ok _

theorem HtbClass.onlyWireFaults_decode (options : Option Bytes) :
    OnlyWireFaults (decode options) := by
  cases options with
  | none => exact .ok _
  | some data =>
      refine (Tagged.onlyWireFaults_parse data).bind fun found => ?_
      split
      · exact .fault _
      · refine (Record.onlyWireFaults_read _ _).bind fun parameters => ?_
        refine (onlyWireFaults_readRate found _ _).bind fun rate => ?_
        exact (onlyWireFaults_readRate found _ _).bind fun _ => .ok _

theorem HfscQdisc.onlyWireFaults_decode (options : Option Bytes) :
    OnlyWireFaults (decode options) := by
  cases options with
  | none => exact .ok _
  | some data => exact Record.onlyWireFaults_read _ data

theorem HfscClass.onlyWireFaults_apply (hclass : HfscClass) (found : Tagged) :
    OnlyWireFaults (hclass.apply found) := by
  unfold apply
  split
  · exact (Record.onlyWireFaults_read _ _).map _
  · exact .ok hclass

theorem HfscClass.onlyWireFaults_decode (options : Option Bytes) :
    OnlyWireFaults (decode options) := by
  cases options with
  | none => exact .ok empty
  | some data =>
      exact (Tagged.onlyWireFaults_parse data).bind fun found =>
        OnlyWireFaults.foldlM onlyWireFaults_apply empty found

theorem PfifoFast.onlyWireFaults_decode (options : Option Bytes) :
    OnlyWireFaults (decode options) := by
  cases options with
  | none => exact .ok standard
  | some data => exact Record.onlyWireFaults_read _ data

namespace Netem

theorem onlyWireFaults_applyFirst {apply : Netem → Bytes → Except Error Netem}
    (each : ∀ netem payload, OnlyWireFaults (apply netem payload)) (found : List Tagged)
    (tag : UInt16) (netem : Netem) : OnlyWireFaults (applyFirst found tag apply netem) := by
  unfold applyFirst
  split
  · exact each netem _
  · exact .ok netem

theorem onlyWireFaults_ofParts (base : NetemBase) (found : List Tagged) (clock : Clock) :
    OnlyWireFaults (ofParts base found clock) := by
  have record : ∀ {α : Type} [Record α] (f : Netem → α → Netem) (netem : Netem) (payload : Bytes),
      OnlyWireFaults ((Record.read α payload).map (f netem)) := fun f netem payload =>
    (Record.onlyWireFaults_read _ payload).map (f netem)
  refine (onlyWireFaults_applyFirst (record _) found _ _).bind fun netem => ?_
  refine (onlyWireFaults_applyFirst (record _) found _ _).bind fun netem => ?_
  refine (onlyWireFaults_applyFirst (record _) found _ _).bind fun netem => ?_
  refine (onlyWireFaults_applyFirst (record _) found _ _).bind fun netem => ?_
  exact onlyWireFaults_applyFirst (fun _ _ => (Layout.onlyWireFaults_readAs _ _ _).map _) found _ _

theorem onlyWireFaults_decode (options : Option Bytes) (clock : Clock) :
    OnlyWireFaults (decode options clock) := by
  cases options with
  | none => exact .ok empty
  | some data =>
      refine (Record.onlyWireFaults_readFront _ data).bind fun (base, rest) => ?_
      refine (Tagged.onlyWireFaults_parse rest).bind fun found => ?_
      exact onlyWireFaults_ofParts base found clock

end Netem

/-! ## Qdiscs and classes -/

theorem QdiscSettings.onlyWireFaults_decode (name : String) (options : Option Bytes)
    (clock : Clock) : OnlyWireFaults (decode name options clock) := by
  unfold decode
  split
  · next kind _ =>
      cases kind with
      | htb => exact (HtbQdisc.onlyWireFaults_decode options).map _
      | netem => exact (Netem.onlyWireFaults_decode options clock).map _
      | hfsc => exact (HfscQdisc.onlyWireFaults_decode options).map _
      | pfifoFast => exact (PfifoFast.onlyWireFaults_decode options).map _
      | ingress => exact .ok ingress
  · exact .ok _

theorem ClassSettings.onlyWireFaults_decode (name : String) (options : Option Bytes) :
    OnlyWireFaults (decode name options) := by
  unfold decode
  split
  · next kind _ =>
      cases kind with
      | htb => exact (HtbClass.onlyWireFaults_decode options).map _
      | hfsc => exact (HfscClass.onlyWireFaults_decode options).map _
  · exact .ok _

theorem TrafficReport.onlyWireFaults_read (payload : Bytes) : OnlyWireFaults (read payload) := by
  refine (Record.onlyWireFaults_readFront _ payload).bind fun (record, rest) => ?_
  refine (Tagged.onlyWireFaults_parse rest).bind fun found => ?_
  split
  · exact .fault .missingKind
  · refine (Payload.onlyWireFaults_readText _).bind fun kind => ?_
    exact (Statistics.onlyWireFaults_ofAttributes found).bind fun _ => .ok _

theorem Qdisc.onlyWireFaults_read (payload : Bytes) (clock : Clock) :
    OnlyWireFaults (read payload clock) :=
  (TrafficReport.onlyWireFaults_read payload).bind fun report =>
    (QdiscSettings.onlyWireFaults_decode report.kind report.options clock).bind fun _ => .ok _

theorem Class.onlyWireFaults_read (payload : Bytes) : OnlyWireFaults (read payload) :=
  (TrafficReport.onlyWireFaults_read payload).bind fun report =>
    (ClassSettings.onlyWireFaults_decode report.kind report.options).bind fun _ => .ok _

end TrafficShaping
