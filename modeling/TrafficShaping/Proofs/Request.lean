import TrafficShaping.Client.Mutation
import TrafficShaping.Proofs.ClassOptions
import TrafficShaping.Proofs.QdiscOptions
import TrafficShaping.Proofs.Report

/-!
Requests for qdiscs and classes, read as the reports that they look like.

`Mutation.Unwritable` lists the reasons why no request is made, all of which are reported as faults
of the configuration. A request that is made holds the record of the place, the kind and the
options: `Mutation.Conveys`. Reading it as a report gives what is read from the options alone, and
what the kernel reports beyond them has no influence on it.
-/

namespace TrafficShaping

/-! ## Attributes behind aligned bytes -/

namespace Request

variable {request : Request} {type : UInt16} {payload : Bytes}

theorem appendAttribute_of_le (aligned : Bytes.Aligned request.payload)
    (fits : payload.length ≤ maxAttributePayload) :
    request.appendAttribute type payload =
      .ok { request with payload := request.payload ++ Attribute.record type payload } := by
  unfold appendAttribute append
  rw [AttributeHeader.forPayload_of_le fits]
  change Except.ok { request with payload := Bytes.padded (request.payload ++ _) } = _
  rw [aligned.padded_append]
  rfl

theorem appendAttribute_of_lt (long : maxAttributePayload < payload.length) :
    request.appendAttribute type payload =
      .error (.config (.oversizedAttribute (AttributeHeader.tagOf type) payload.length)) := by
  unfold appendAttribute
  rw [AttributeHeader.forPayload_of_lt long]
  rfl

end Request

/-! ## Requests of any kind -/

namespace Mutation

/-- The request with the record of a place and bytes behind it. -/
def withBytes (mutation : Mutation) (type : UInt16) (place : Placement) (data : Bytes) : Request :=
  { Request.ofType type mutation.flags with
    payload := Record.toBytes (TrafficRecord.ofPlace place 0) ++ data }

/-- Why there is no request for a kind and options. -/
inductive Unwritable (kind : String) (options : Except Error (Option Bytes)) : Prop where
  /-- The options themselves are not written. -/
  | options {error : Error} (failed : options = .error error)
  /-- The kind and the zero byte that ends it do not fit an attribute. -/
  | kind (long : maxAttributePayload < (Text.Utf8.encode kind).length + 1)
  /-- The options do not fit an attribute. -/
  | length {data : Bytes} (written : options = .ok (some data))
      (long : maxAttributePayload < data.length)

variable {mutation : Mutation} {type : UInt16} {place : Placement} {kind : String}
  {options : Except Error (Option Bytes)}

theorem length_toBytes_ofPlace (place : Placement) :
    (Record.toBytes (TrafficRecord.ofPlace place 0)).length = 20 :=
  TrafficRecord.lawful_layout.length_toBytes _

theorem aligned_toBytes_ofPlace (place : Placement) :
    Bytes.Aligned (Record.toBytes (TrafficRecord.ofPlace place 0)) := by
  unfold Bytes.Aligned
  rw [length_toBytes_ofPlace]

theorem appendRecord_eq_withBytes (mutation : Mutation) (type : UInt16) (place : Placement) :
    (Request.ofType type mutation.flags).appendRecord (TrafficRecord.ofPlace place 0) =
      mutation.withBytes type place [] := by
  unfold Request.appendRecord Request.append withBytes
  rw [List.append_nil]
  exact congrArg _ (aligned_toBytes_ofPlace place).padded_eq

theorem appendAttribute_withBytes {data payload : Bytes} (aligned : Bytes.Aligned data)
    (fits : payload.length ≤ maxAttributePayload) (tag : UInt16) :
    (mutation.withBytes type place data).appendAttribute tag payload =
      .ok (mutation.withBytes type place (data ++ Attribute.record tag payload)) := by
  have whole : Bytes.Aligned (mutation.withBytes type place data).payload :=
    (aligned_toBytes_ofPlace place).append aligned
  rw [Request.appendAttribute_of_le whole fits]
  unfold withBytes
  rw [List.append_assoc]

/-- A deletion says where the object is and no more. -/
theorem request_delete (type : UInt16) (place : Placement) (kind : String)
    (options : Except Error (Option Bytes)) :
    delete.request type place kind options = .ok (delete.withBytes type place []) := by
  unfold request
  rw [appendRecord_eq_withBytes]
  exact if_pos rfl

theorem request_of_ne_delete (kept : mutation ≠ .delete) :
    mutation.request type place kind options =
      (do
        let options ← options
        let request ← (mutation.withBytes type place []).appendText TrafficTag.kind kind
        match options with
        | some data => request.appendAttribute TrafficTag.options data
        | none => .ok request) := by
  unfold request
  rw [appendRecord_eq_withBytes]
  exact if_neg kept

/-- The attribute with a kind. -/
def kindRecord (kind : String) : Bytes :=
  Attribute.record TrafficTag.kind (Text.Utf8.encode kind ++ [0])

theorem aligned_kindRecord (kind : String) : Bytes.Aligned (kindRecord kind) :=
  Attribute.aligned_record _ _

theorem length_kind (kind : String) :
    (Text.Utf8.encode kind ++ [0]).length = (Text.Utf8.encode kind).length + 1 :=
  List.length_append

theorem request_of_long_kind (kept : mutation ≠ .delete)
    (long : maxAttributePayload < (Text.Utf8.encode kind).length + 1) (data : Option Bytes) :
    mutation.request type place kind (.ok data) =
      .error (.config (.oversizedAttribute (AttributeHeader.tagOf TrafficTag.kind)
        (Text.Utf8.encode kind ++ [0]).length)) := by
  rw [← length_kind] at long
  rw [request_of_ne_delete kept]
  change ((mutation.withBytes type place []).appendAttribute TrafficTag.kind _ >>= _) = _
  rw [Request.appendAttribute_of_lt long]
  rfl

/-- A kind that fits is the first attribute, and the options decide on the rest. -/
theorem request_of_kind_le (kept : mutation ≠ .delete)
    (fits : (Text.Utf8.encode kind).length + 1 ≤ maxAttributePayload) (data : Option Bytes) :
    mutation.request type place kind (.ok data) =
      match data with
      | some data =>
        (mutation.withBytes type place (kindRecord kind)).appendAttribute TrafficTag.options data
      | none => .ok (mutation.withBytes type place (kindRecord kind)) := by
  rw [← length_kind] at fits
  rw [request_of_ne_delete kept]
  change ((mutation.withBytes type place []).appendAttribute TrafficTag.kind _ >>= _) = _
  rw [appendAttribute_withBytes Bytes.aligned_nil fits]
  rfl

/-- Each reason leads to a fault of the configuration, if the options fail with nothing else. -/
theorem request_of_unwritable (kept : mutation ≠ .delete)
    (invalid : ∀ error, options = .error error → ∃ fault, error = .config fault)
    (unwritable : Unwritable kind options) :
    ∃ fault, mutation.request type place kind options = .error (.config fault) := by
  cases options with
  | error error =>
      obtain ⟨fault, rfl⟩ := invalid error rfl
      exact ⟨fault, request_of_ne_delete kept⟩
  | ok data =>
      rcases Nat.lt_or_ge maxAttributePayload ((Text.Utf8.encode kind).length + 1) with
        longKind | fits
      · exact ⟨_, request_of_long_kind kept longKind data⟩
      · cases unwritable with
        | options failed => cases failed
        | kind long => exact absurd fits (Nat.not_le.mpr long)
        | length written long =>
            cases written
            exact ⟨_, (request_of_kind_le kept fits _).trans (Request.appendAttribute_of_lt long)⟩

/-- Without any of the reasons there is a request: the record of the place and the attributes. -/
theorem exists_request (kept : mutation ≠ .delete) (type : UInt16) (place : Placement)
    (writable : ¬ Unwritable kind options) :
    ∃ data, options = .ok data ∧
      (∀ record ∈ TrafficReport.attributes kind data, record.IsWritable) ∧
      mutation.request type place kind options =
        .ok (mutation.withBytes type place
          ((TrafficReport.attributes kind data).flatMap Tagged.toBytes)) := by
  cases options with
  | error error => exact absurd (.options rfl) writable
  | ok data =>
      have fitsKind := Nat.not_lt.mp fun long => writable (.kind long)
      have fitsOptions : ∀ payload ∈ data, payload.length ≤ maxAttributePayload := by
        rintro payload ⟨⟩
        exact Nat.not_lt.mp fun long => writable (.length rfl long)
      refine ⟨data, rfl, ?_, ?_⟩
      · apply Tagged.isWritable_of_mem_ofEntries TrafficReport.tagOf_of_mem_entries
        unfold TrafficReport.entries
        simp only [List.forall_mem_cons]
        refine ⟨?_, fitsOptions, List.forall_mem_nil _⟩
        rintro payload ⟨⟩
        rw [length_kind]
        exact fitsKind
      · rw [request_of_kind_le kept fitsKind]
        cases data with
        | none =>
            change _ = Except.ok (mutation.withBytes type place (kindRecord kind ++ []))
            rw [List.append_nil]
        | some data =>
            change (mutation.withBytes type place (kindRecord kind)).appendAttribute _ _ =
              Except.ok (mutation.withBytes type place
                (kindRecord kind ++ (Attribute.record TrafficTag.options data ++ [])))
            rw [appendAttribute_withBytes (aligned_kindRecord kind) (fitsOptions data rfl),
              List.append_nil]

/-! ## Requests as reports -/

/-- What a request for an object tells, if there is one. Reports are read by `read`, and options
alone by `decode`. -/
structure Conveys {α : Type} (outcome : Except Error Request) (place : Placement) (kind : String)
    (options : Except Error (Option Bytes)) (read : Bytes → Except Error α)
    (decode : Option Bytes → Except Error α) : Prop where
  /-- Whatever stands against the request is a fault of the configuration. -/
  refused : Unwritable kind options → ∃ fault, outcome = .error (.config fault)
  /-- Otherwise the request is the record of the place, the kind and the options, and reads as the
  options do. -/
  made : ¬ Unwritable kind options →
    ∃ request data rest, outcome = .ok request ∧ options = .ok data ∧
      request.payload = Record.toBytes (TrafficRecord.ofPlace place 0) ++ rest ∧
      Tagged.parse rest = .ok (TrafficReport.attributes kind data) ∧
      ('\x00' ∉ kind.toList → read request.payload = decode data)

theorem conveys_request {α : Type} {read : Bytes → Except Error α}
    {decode : Option Bytes → Except Error α} (kept : mutation ≠ .delete)
    (invalid : ∀ error, options = .error error → ∃ fault, error = .config fault)
    (reads : ∀ {rest data}, '\x00' ∉ kind.toList →
      Tagged.parse rest = .ok (TrafficReport.attributes kind data) →
      read (Record.toBytes (TrafficRecord.ofPlace place 0) ++ rest) = decode data) :
    Conveys (mutation.request type place kind options) place kind options read decode where
  refused := request_of_unwritable kept invalid
  made := by
    intro writable
    obtain ⟨data, written, records, built⟩ := exists_request kept type place writable
    have parsed := Tagged.parseFrom_flatMap_toBytes records 0
    exact ⟨_, data, _, built, written, rfl, parsed, fun free => reads free parsed⟩

theorem conveys_qdiscRequest (kept : mutation ≠ .delete) (qdisc : Qdisc) (clock : Clock) :
    Conveys (mutation.qdiscRequest qdisc clock) qdisc.place qdisc.kindName
      (qdisc.settings.encode clock) (Qdisc.read · clock)
      fun options =>
        Qdisc.decode qdisc.kindName qdisc.place (some 0) .zero options clock := by
  apply conveys_request kept
  · intro error failed
    obtain ⟨_, rfl⟩ := (qdisc.settings.encode_eq_error_iff clock error).mp failed
    exact ⟨_, rfl⟩
  · intro rest data free parsed
    exact Qdisc.read_attributes free qdisc.place 0 parsed clock

theorem conveys_classRequest (kept : mutation ≠ .delete) (tclass : Class) (clock : Clock) :
    Conveys (mutation.classRequest tclass clock) tclass.place tclass.kindName
      (tclass.settings.encode clock) Class.read
      fun options => Class.decode tclass.kindName tclass.place .zero options := by
  apply conveys_request kept
  · intro error failed
    obtain ⟨options, written, _⟩ := tclass.settings.exists_encode clock
    cases written.symm.trans failed
  · intro rest data free parsed
    exact Class.read_attributes free tclass.place 0 parsed

/-- The request of a deletion is always made and holds the record of the place only. -/
theorem exists_request_delete (type : UInt16) (place : Placement) (kind : String)
    (options : Except Error (Option Bytes)) :
    ∃ request, delete.request type place kind options = .ok request ∧
      request.payload = Record.toBytes (TrafficRecord.ofPlace place 0) ∧
      request.payload.length = 20 := by
  have payload : (delete.withBytes type place []).payload =
      Record.toBytes (TrafficRecord.ofPlace place 0) := List.append_nil _
  refine ⟨_, request_delete type place kind options, payload, ?_⟩
  rw [payload]
  exact length_toBytes_ofPlace place

/-- A request to add, change or replace is refused for the reasons of `Unwritable` and no others.
What is made is read back as the options are, and the references and statistics do not count. A
request to delete is never refused. -/
theorem conveys_and_deletes {mutation : Mutation} (kept : mutation ≠ .delete) (clock : Clock) :
    (∀ qdisc : Qdisc,
      Conveys (mutation.qdiscRequest qdisc clock) qdisc.place qdisc.kindName
        (qdisc.settings.encode clock) (Qdisc.read · clock)
        (fun options => Qdisc.decode qdisc.kindName qdisc.place (some 0) .zero options clock) ∧
      (∀ references statistics,
        mutation.qdiscRequest { qdisc with references, statistics } clock =
          mutation.qdiscRequest qdisc clock) ∧
      ∃ request, delete.qdiscRequest qdisc clock = .ok request ∧
        request.payload = Record.toBytes (TrafficRecord.ofPlace qdisc.place 0) ∧
        request.payload.length = 20) ∧
    (∀ tclass : Class,
      Conveys (mutation.classRequest tclass clock) tclass.place tclass.kindName
        (tclass.settings.encode clock) Class.read
        (fun options => Class.decode tclass.kindName tclass.place .zero options) ∧
      (∀ statistics,
        mutation.classRequest { tclass with statistics } clock =
          mutation.classRequest tclass clock) ∧
      ∃ request, delete.classRequest tclass clock = .ok request ∧
        request.payload = Record.toBytes (TrafficRecord.ofPlace tclass.place 0) ∧
        request.payload.length = 20) := by
  constructor
  · intro qdisc
    refine ⟨conveys_qdiscRequest kept qdisc clock, fun _ _ => rfl, ?_⟩
    exact exists_request_delete delete.qdiscType qdisc.place qdisc.kindName _
  · intro tclass
    refine ⟨conveys_classRequest kept tclass clock, fun _ => rfl, ?_⟩
    exact exists_request_delete delete.classType tclass.place tclass.kindName _

/-- A qdisc with two bytes of options on the link of the highest index. -/
def shortOptions : Qdisc := .ofSettings ⟨0xFFFFFFFF, .ofParts 0x8001 0, .root⟩ (.hfsc ⟨5⟩)

theorem conveys_and_deletes_shortOptions :
    Mutation.replace ≠ .delete ∧
      ¬ Unwritable "hfsc" (shortOptions.settings.encode .highResolution) ∧
      ∃ request, replace.qdiscRequest shortOptions .highResolution = .ok request ∧
        Qdisc.read request.payload .highResolution =
          .ok { shortOptions with references := some 0 } := by
  have kept : Mutation.replace ≠ .delete := by decide
  have writable : ¬ Unwritable "hfsc" (shortOptions.settings.encode .highResolution) := by
    intro unwritable
    cases unwritable with
    | options failed => cases failed
    | kind long => exact absurd long (by decide)
    | length written long =>
        cases written
        exact absurd long (by decide)
  obtain ⟨conveys, _, _⟩ := (conveys_and_deletes kept .highResolution).1 shortOptions
  obtain ⟨request, data, _, made, written, _, _, reads⟩ := conveys.made writable
  refine ⟨kept, writable, request, made, (reads (by decide)).trans ?_⟩
  cases written
  rfl

end Mutation

end TrafficShaping
