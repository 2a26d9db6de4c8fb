import TrafficShaping.Proofs.Attribute.Writing
import TrafficShaping.Proofs.Message.Framing
import TrafficShaping.Proofs.Request

/-!
Requests that are written in place.

A `Request` keeps the fields of its header apart from the payload. A builder has the bytes only: it
adds to their end, fills up to a multiple of four that is counted from the first byte of the header,
and writes numbers over the header at fixed offsets. `Request.Edit.write` is one call of a builder,
and the bytes that it leaves are those of the request after `Request.Edit.apply`
(`Request.Edit.write_draft`). From there `Request.Builds` says what holds of any sequence of calls.
-/

namespace TrafficShaping

namespace Bytes

/-- The bytes with some of them replaced, from an offset on. -/
def overwrite (offset : Nat) (data buffer : Bytes) : Bytes :=
  buffer.take offset ++ (data ++ buffer.drop (offset + data.length))

theorem overwrite_append {offset : Nat} {front old data : Bytes} (before : front.length = offset)
    (same : old.length = data.length) (rest : Bytes) :
    overwrite offset data (front ++ (old ++ rest)) = front ++ (data ++ rest) := by
  subst before
  rw [overwrite, List.take_left, ← same, ← List.drop_drop, List.drop_left, List.drop_left]

end Bytes

namespace Request

/-! ## Calls -/

/-- A call that adds to a request or sets a number in its header. -/
inductive Edit where
  | append (data : Bytes)
  | appendRecord {α : Type} [Record α] (value : α)
  | appendAttribute (type : UInt16) (payload : Bytes)
  | appendText (type : UInt16) (text : String)
  | setSequence (sequence : UInt32)
  | setSender (sender : UInt32)

namespace Edit

/-- The request after the call, if it succeeds. -/
def apply : Edit → Request → Except Error Request
  | append data, request => .ok (request.append data)
  | appendRecord value, request => .ok (request.appendRecord value)
  | appendAttribute type payload, request => request.appendAttribute type payload
  | appendText type text, request => request.appendText type text
  | setSequence sequence, request => .ok (request.withSequence sequence)
  | setSender sender, request => .ok (request.withSender sender)

/-- An attribute behind a buffer. Nothing is written unless the payload fits the length field. -/
def writeAttribute (type : UInt16) (payload buffer : Bytes) : Except Error Unit × Bytes :=
  match AttributeHeader.forPayload type payload.length with
  | .error error => (.error error, buffer)
  | .ok header => (.ok (), Bytes.padded (buffer ++ Record.toBytes header ++ payload))

theorem writeAttribute_of_lt {payload : Bytes} (long : maxAttributePayload < payload.length)
    (type : UInt16) (buffer : Bytes) :
    writeAttribute type payload buffer =
      (.error (.config (.oversizedAttribute (AttributeHeader.tagOf type) payload.length)),
        buffer) := by
  rw [writeAttribute, AttributeHeader.forPayload_of_lt long]

/-- The outcome of the call on a buffer, and the bytes that it leaves there. -/
def write : Edit → Bytes → Except Error Unit × Bytes
  | append data, buffer => (.ok (), Bytes.padded (buffer ++ data))
  | appendRecord value, buffer => (.ok (), Bytes.padded (buffer ++ Record.toBytes value))
  | appendAttribute type payload, buffer => writeAttribute type payload buffer
  | appendText type text, buffer => writeAttribute type (Text.Utf8.encode text ++ [0]) buffer
  | setSequence sequence, buffer =>
    (.ok (), Bytes.overwrite 8 (Layout.uint32.write sequence) buffer)
  | setSender sender, buffer => (.ok (), Bytes.overwrite 12 (Layout.uint32.write sender) buffer)

/-- The attribute that the call adds. -/
def leaf? : Edit → Option Attribute
  | appendAttribute type payload => some (.leaf type payload)
  | appendText type text => some (.ofText type text)
  | append _ | appendRecord _ | setSequence _ | setSender _ => none

/-- Whether the call adds bytes that need not be attributes. -/
def isRaw : Edit → Bool
  | append _ | appendRecord _ => true
  | appendAttribute _ _ | appendText _ _ | setSequence _ | setSender _ => false

def sequence? : Edit → Option UInt32
  | setSequence sequence => some sequence
  | append _ | appendRecord _ | appendAttribute _ _ | appendText _ _ | setSender _ => none

def sender? : Edit → Option UInt32
  | setSender sender => some sender
  | append _ | appendRecord _ | appendAttribute _ _ | appendText _ _ | setSequence _ => none

end Edit

/-! ## The buffer -/

/-- A header without payload. -/
def newBuffer (type flags : UInt16) : Bytes := Record.toBytes (MessageHeader.ofType type flags)

/-- The length filled in. It is cut to 32 bits. -/
def finishBuffer (buffer : Bytes) : Bytes :=
  Bytes.overwrite 0 (Layout.uint32.write (UInt32.ofNat buffer.length)) buffer

/-- The type in the header of a buffer. -/
def bufferType (buffer : Bytes) : UInt16 := UInt16.ofNat (Bytes.toNat (buffer.extract 4 6))

/-- The flags in the header of a buffer. -/
def bufferFlags (buffer : Bytes) : UInt16 := UInt16.ofNat (Bytes.toNat (buffer.extract 6 8))

/-- What is behind the header of a buffer. -/
def bufferPayload (buffer : Bytes) : Bytes := buffer.drop MessageHeader.size

section Draft

variable (request : Request)

theorem draft_ofType (type flags : UInt16) : (ofType type flags).draft = newBuffer type flags :=
  List.append_nil _

theorem length_draft : request.draft.length = request.length := by
  rw [draft, List.length_append, MessageHeader.length_toBytes]
  rfl

theorem bufferPayload_draft : bufferPayload request.draft = request.payload :=
  List.drop_left' (MessageHeader.length_toBytes _)

/-- The fields of the header follow each other without gaps. -/
theorem draft_eq :
    request.draft =
      Layout.uint32.write (UInt32.ofNat MessageHeader.size) ++
        (Layout.uint16.write request.type ++ (Layout.uint16.write request.flags ++
          (Layout.uint32.write request.sequence ++
            (Layout.uint32.write request.sender ++ request.payload)))) := by
  change (_ ++ (_ ++ (_ ++ (_ ++ _)))) ++ request.payload = _
  simp only [List.append_assoc]
  rfl

theorem finishBuffer_draft : finishBuffer request.draft = request.finish := by
  rw [finishBuffer, length_draft, draft_eq]
  refine (Bytes.overwrite_append List.length_nil rfl _).trans ?_
  change _ = (_ ++ (_ ++ (_ ++ (_ ++ _)))) ++ request.payload
  simp only [List.append_assoc]
  rfl

theorem overwrite_draft_sequence (sequence : UInt32) :
    Bytes.overwrite 8 (Layout.uint32.write sequence) request.draft =
      (request.withSequence sequence).draft := by
  have before : (Layout.uint32.write (UInt32.ofNat MessageHeader.size) ++
      Layout.uint16.write request.type ++ Layout.uint16.write request.flags).length = 8 := rfl
  rw [draft_eq, draft_eq, ← List.append_assoc, ← List.append_assoc]
  refine (Bytes.overwrite_append before rfl _).trans ?_
  simp only [List.append_assoc]
  rfl

theorem overwrite_draft_sender (sender : UInt32) :
    Bytes.overwrite 12 (Layout.uint32.write sender) request.draft =
      (request.withSender sender).draft := by
  have before : (Layout.uint32.write (UInt32.ofNat MessageHeader.size) ++
      Layout.uint16.write request.type ++ Layout.uint16.write request.flags ++
      Layout.uint32.write request.sequence).length = 12 := rfl
  rw [draft_eq, draft_eq, ← List.append_assoc, ← List.append_assoc, ← List.append_assoc]
  refine (Bytes.overwrite_append before rfl _).trans ?_
  simp only [List.append_assoc]
  rfl

theorem ofNat_toNat_write (value : UInt16) :
    UInt16.ofNat (Bytes.toNat (Layout.uint16.write value)) = value := by
  have small : value.toNat < Bytes.bound 2 := value.toNat_lt
  change UInt16.ofNat (Bytes.toNat (Bytes.ofNat 2 value.toNat)) = _
  rw [Bytes.toNat_ofNat, Nat.mod_eq_of_lt small, UInt16.ofNat_toNat]

theorem bufferType_draft : bufferType request.draft = request.type := by
  have found : request.draft.extract 4 6 = Layout.uint16.write request.type := by
    rw [draft_eq]
    exact Message.extract_eq_of_drop (List.drop_left' rfl)
  rw [bufferType, found, ofNat_toNat_write]

theorem bufferFlags_draft : bufferFlags request.draft = request.flags := by
  have found : request.draft.extract 6 8 = Layout.uint16.write request.flags := by
    rw [draft_eq, ← List.append_assoc]
    exact Message.extract_eq_of_drop (List.drop_left' rfl)
  rw [bufferFlags, found, ofNat_toNat_write]

/-- Filling up the whole buffer fills up the payload. -/
theorem padded_draft_append (data : Bytes) :
    Bytes.padded (request.draft ++ data) = (request.append data).draft := by
  have aligned : Bytes.Aligned (Record.toBytes (request.header MessageHeader.size)) := by
    unfold Bytes.Aligned
    rw [MessageHeader.length_toBytes]
    rfl
  rw [draft, List.append_assoc, aligned.padded_append]
  rfl

end Draft

/-! ## One call -/

namespace Edit

/-- What a call leaves when its outcome for the request is known. -/
def left (request : Request) : Except Error Request → Except Error Unit × Bytes
  | .ok later => (.ok (), later.draft)
  | .error error => (.error error, request.draft)

theorem writeAttribute_draft (request : Request) (type : UInt16) (payload : Bytes) :
    writeAttribute type payload request.draft =
      left request (request.appendAttribute type payload) := by
  unfold writeAttribute Request.appendAttribute
  cases AttributeHeader.forPayload type payload.length with
  | error error => rfl
  | ok header =>
      change (_, Bytes.padded (request.draft ++ Record.toBytes header ++ payload)) = _
      rw [List.append_assoc, padded_draft_append]
      rfl

/-- A call on the bytes of a request leaves the bytes of the request that it makes. If it fails,
it leaves them as they were. -/
theorem write_draft (edit : Edit) (request : Request) :
    edit.write request.draft = left request (edit.apply request) := by
  cases edit with
  | append data => exact congrArg (Prod.mk _) (padded_draft_append request data)
  | appendRecord value => exact congrArg (Prod.mk _) (padded_draft_append request _)
  | appendAttribute type payload => exact writeAttribute_draft request type payload
  | appendText type text => exact writeAttribute_draft request type _
  | setSequence sequence => exact congrArg (Prod.mk _) (overwrite_draft_sequence request sequence)
  | setSender sender => exact congrArg (Prod.mk _) (overwrite_draft_sender request sender)

/-- The request after the call, which is the same as before if the call fails. -/
def after (request : Request) (edit : Edit) : Request :=
  match edit.apply request with
  | .ok later => later
  | .error _ => request

theorem write_draft_snd (edit : Edit) (request : Request) :
    (edit.write request.draft).2 = (edit.after request).draft := by
  rw [write_draft, after]
  cases edit.apply request with
  | error error => rfl
  | ok later => rfl

theorem write_draft_snd_of_error {edit : Edit} {request : Request} {error : Error}
    (failed : (edit.write request.draft).1 = .error error) :
    (edit.write request.draft).2 = request.draft := by
  rw [write_draft] at failed ⊢
  cases applied : edit.apply request with
  | error _ => rfl
  | ok later =>
      rw [applied] at failed
      cases failed

end Edit

/-! ## Sequences of calls -/

/-- What calls can do to a request. The last number that is set counts. -/
structure Advances (edits : List Edit) (request later : Request) : Prop where
  type_eq : later.type = request.type
  flags_eq : later.flags = request.flags
  sequence_eq :
    later.sequence = (edits.filterMap Edit.sequence?).getLast?.getD request.sequence
  sender_eq : later.sender = (edits.filterMap Edit.sender?).getLast?.getD request.sender
  isPrefix_payload : request.payload <+: later.payload
  aligned : Bytes.Aligned request.payload → Bytes.Aligned later.payload

namespace Advances

theorem nil (request : Request) : Advances [] request request :=
  ⟨rfl, rfl, rfl, rfl, List.prefix_rfl, id⟩

theorem append {first second : List Edit} {request middle later : Request}
    (front : Advances first request middle) (back : Advances second middle later) :
    Advances (first ++ second) request later where
  type_eq := back.type_eq.trans front.type_eq
  flags_eq := back.flags_eq.trans front.flags_eq
  sequence_eq := by
    rw [back.sequence_eq, front.sequence_eq, List.filterMap_append, List.getLast?_append,
      Option.getD_or]
  sender_eq := by
    rw [back.sender_eq, front.sender_eq, List.filterMap_append, List.getLast?_append,
      Option.getD_or]
  isPrefix_payload := front.isPrefix_payload.trans back.isPrefix_payload
  aligned start := back.aligned (front.aligned start)

section Call

variable {edit : Edit} {request : Request}

theorem ofAppend (unnumbered : edit.sequence? = none) (anonymous : edit.sender? = none)
    (data : Bytes) : Advances [edit] request (request.append data) where
  type_eq := rfl
  flags_eq := rfl
  sequence_eq := by rw [List.filterMap_cons_none unnumbered]; rfl
  sender_eq := by rw [List.filterMap_cons_none anonymous]; rfl
  isPrefix_payload := (List.prefix_append _ _).trans (List.prefix_append _ _)
  aligned _ := Bytes.aligned_padded _

/-- An attribute is added or, if it is too long, nothing is. -/
theorem ofAttribute {type : UInt16} {payload : Bytes}
    (applied : edit.apply request = request.appendAttribute type payload)
    (unnumbered : edit.sequence? = none) (anonymous : edit.sender? = none) :
    Advances [edit] request (edit.after request) := by
  rw [Edit.after, applied, Request.appendAttribute]
  cases AttributeHeader.forPayload type payload.length with
  | ok header => exact ofAppend unnumbered anonymous _
  | error error =>
      refine ⟨rfl, rfl, ?_, ?_, List.prefix_rfl, id⟩
      · rw [List.filterMap_cons_none unnumbered]
        rfl
      · rw [List.filterMap_cons_none anonymous]
        rfl

theorem after (edit : Edit) (request : Request) :
    Advances [edit] request (edit.after request) := by
  cases edit with
  | append data => exact ofAppend rfl rfl data
  | appendRecord value => exact ofAppend rfl rfl _
  | appendAttribute type payload => exact ofAttribute rfl rfl rfl
  | appendText type text => exact ofAttribute rfl rfl rfl
  | setSequence sequence => exact ⟨rfl, rfl, rfl, rfl, List.prefix_rfl, id⟩
  | setSender sender => exact ⟨rfl, rfl, rfl, rfl, List.prefix_rfl, id⟩

end Call

theorem foldl (edits : List Edit) (request : Request) :
    Advances edits request (edits.foldl (fun request edit => edit.after request) request) := by
  induction edits generalizing request with
  | nil => exact nil request
  | cons edit edits ih => exact (after edit request).append (ih _)

end Advances

/-- The bytes that calls on a buffer leave, whether they succeed or not. -/
def writeAll (edits : List Edit) (buffer : Bytes) : Bytes :=
  edits.foldl (fun buffer edit => (edit.write buffer).2) buffer

/-- The calls that succeed, out of some that are made one after the other. -/
def succeeding : List Edit → Bytes → List Edit
  | [], _ => []
  | edit :: edits, buffer =>
    match edit.write buffer with
    | (.ok _, later) => edit :: succeeding edits later
    | (.error _, later) => succeeding edits later

theorem exists_advances_writeAll (edits : List Edit) (request : Request) :
    ∃ later, Advances edits request later ∧ writeAll edits request.draft = later.draft := by
  refine ⟨_, .foldl edits request, ?_⟩
  induction edits generalizing request with
  | nil => rfl
  | cons edit edits ih =>
      rw [List.foldl_cons, ← ih, ← edit.write_draft_snd]
      rfl

/-! ## Attributes one by one -/

theorem exists_write_of_appendAttribute {request later : Request} {type : UInt16} {payload : Bytes}
    (aligned : Bytes.Aligned request.payload)
    (added : request.appendAttribute type payload = .ok later) :
    ∃ data, (Attribute.leaf type payload).write = .ok data ∧
      later.payload = request.payload ++ data := by
  rcases Nat.lt_or_ge maxAttributePayload payload.length with long | fits
  · cases (appendAttribute_of_lt long).symm.trans added
  · cases (appendAttribute_of_le aligned fits).symm.trans added
    exact ⟨_, Attribute.write_leaf_eq_ok.mpr ⟨fits, rfl⟩, rfl⟩

/-- A call that succeeds and adds an attribute at most. -/
theorem Edit.leaf?_of_apply {edit : Edit} {request later : Request}
    (transparent : edit.isRaw = false) (aligned : Bytes.Aligned request.payload)
    (applied : edit.apply request = .ok later) :
    (edit.leaf? = none ∧ later.payload = request.payload) ∨
      ∃ leaf data, edit.leaf? = some leaf ∧ leaf.write = .ok data ∧
        later.payload = request.payload ++ data := by
  cases edit with
  | append data => cases transparent
  | appendRecord value => cases transparent
  | appendAttribute type payload =>
      obtain ⟨data, written, whole⟩ := exists_write_of_appendAttribute aligned applied
      exact .inr ⟨_, data, rfl, written, whole⟩
  | appendText type text =>
      obtain ⟨data, written, whole⟩ := exists_write_of_appendAttribute aligned applied
      exact .inr ⟨_, data, rfl, written, whole⟩
  | setSequence sequence =>
      cases applied
      exact .inl ⟨rfl, rfl⟩
  | setSender sender =>
      cases applied
      exact .inl ⟨rfl, rfl⟩

/-- Attributes that are added one by one stand where they would stand as a sequence. -/
theorem exists_writeAll_leaves {edits : List Edit} (transparent : ∀ edit ∈ edits, ¬ edit.isRaw)
    {request : Request} (aligned : Bytes.Aligned request.payload) :
    ∃ data, Attribute.writeAll ((succeeding edits request.draft).filterMap Edit.leaf?) = .ok data ∧
      bufferPayload (writeAll edits request.draft) = request.payload ++ data := by
  induction edits generalizing request with
  | nil => exact ⟨[], rfl, (bufferPayload_draft request).trans (List.append_nil _).symm⟩
  | cons edit edits ih =>
      have first : edit.isRaw = false := Bool.eq_false_iff.mpr (transparent edit List.mem_cons_self)
      have rest : ∀ edit ∈ edits, ¬ edit.isRaw :=
        fun edit member => transparent edit (List.mem_cons_of_mem _ member)
      have written := edit.write_draft request
      cases applied : edit.apply request with
      | error error =>
          rw [applied] at written
          obtain ⟨data, leaves, whole⟩ := ih rest aligned
          refine ⟨data, ?_, ?_⟩
          · rw [succeeding, written]
            exact leaves
          · rw [← whole, writeAll, List.foldl_cons, written]
            rfl
      | ok later =>
          rw [applied] at written
          have step := Edit.leaf?_of_apply first aligned applied
          have kept : Bytes.Aligned later.payload := by
            have advanced := (Advances.after edit request).aligned aligned
            rwa [Edit.after, applied] at advanced
          obtain ⟨data, leaves, whole⟩ := ih rest kept
          have left : writeAll (edit :: edits) request.draft = writeAll edits later.draft := by
            rw [writeAll, List.foldl_cons, written]
            rfl
          have chosen : succeeding (edit :: edits) request.draft =
              edit :: succeeding edits later.draft := by
            rw [succeeding, written]
            rfl
          rw [left, chosen, whole]
          obtain ⟨silent, same⟩ | ⟨leaf, front, loud, one, longer⟩ := step
          · exact ⟨data, by rw [List.filterMap_cons_none silent, leaves], by rw [same]⟩
          · refine ⟨front ++ data, ?_, ?_⟩
            · rw [List.filterMap_cons_some loud]
              exact Attribute.writeAll_cons_eq_ok.mpr ⟨front, data, one, leaves, rfl⟩
            · rw [longer, List.append_assoc]

/-! ## What a builder keeps -/

/-- What is true of a new buffer after any calls, whether they have succeeded or not. -/
structure Builds (type flags : UInt16) (edits : List Edit) (buffer : Bytes) : Prop where
  size_le_length : MessageHeader.size ≤ buffer.length
  aligned : Bytes.Aligned buffer
  type_eq : bufferType buffer = type
  flags_eq : bufferFlags buffer = flags
  /-- Later calls leave the payload as it is. -/
  isPrefix : ∀ more, bufferPayload buffer <+: bufferPayload (writeAll more buffer)
  /-- A call that fails leaves all bytes as they are. -/
  failed : ∀ edit error later, Edit.write edit buffer = (.error error, later) → later = buffer
  /-- The buffer is one message, with the numbers that were set last. -/
  parsed : buffer.length < UInt32.size →
    ∃ header : MessageHeader,
      Message.parseAll (finishBuffer buffer) = .ok [⟨header, bufferPayload buffer⟩] ∧
      header.length.toNat = buffer.length ∧ header.type = type ∧ header.flags = flags ∧
      header.sequence = (edits.filterMap Edit.sequence?).getLast?.getD 0 ∧
      header.sender = (edits.filterMap Edit.sender?).getLast?.getD 0

/-- A buffer that is written in place is a message with the type and flags that it was made with and
with the numbers that were set last. If nothing but attributes is added, its payload is the sequence
of those that were not refused. -/
theorem builds_and_writeAll (type flags : UInt16) (edits : List Edit) :
    Builds type flags edits (writeAll edits (newBuffer type flags)) ∧
    ((∀ edit ∈ edits, ¬ edit.isRaw) →
      Attribute.writeAll ((succeeding edits (newBuffer type flags)).filterMap Edit.leaf?) =
        .ok (bufferPayload (writeAll edits (newBuffer type flags)))) := by
  rw [← draft_ofType]
  constructor
  · obtain ⟨request, advanced, written⟩ := exists_advances_writeAll edits (ofType type flags)
    rw [written]
    have aligned := advanced.aligned Bytes.aligned_nil
    exact {
      size_le_length := by
        rw [length_draft]
        exact Nat.le_add_right _ _
      aligned := by
        unfold Bytes.Aligned at aligned ⊢
        rw [length_draft, length, MessageHeader.size]
        omega
      type_eq := (bufferType_draft request).trans advanced.type_eq
      flags_eq := (bufferFlags_draft request).trans advanced.flags_eq
      isPrefix := by
        intro more
        obtain ⟨later, advanced, written⟩ := exists_advances_writeAll more request
        rw [written, bufferPayload_draft, bufferPayload_draft]
        exact advanced.isPrefix_payload
      failed := by
        intro edit error later failed
        have same := edit.write_draft_snd_of_error (congrArg Prod.fst failed)
        exact (congrArg Prod.snd failed).symm.trans same
      parsed := by
        intro fits
        rw [length_draft] at fits ⊢
        have joined : Message.Joined [request] (request.finish ++ []) := .last (Nat.zero_le _)
        have parsed := joined.parseAll_eq fun frame member => List.mem_singleton.mp member ▸ fits
        rw [List.append_nil] at parsed
        rw [finishBuffer_draft, bufferPayload_draft]
        exact ⟨_, parsed, UInt32.toNat_ofNat_of_lt' fits, advanced.type_eq, advanced.flags_eq,
          advanced.sequence_eq, advanced.sender_eq⟩ }
  · intro transparent
    have empty : Bytes.Aligned (ofType type flags).payload := Bytes.aligned_nil
    obtain ⟨data, leaves, whole⟩ := exists_writeAll_leaves transparent empty
    rw [whole]
    exact leaves

/-- Calls of which the second fails if its payload is too long. -/
def refusedEdits (payload : Bytes) : List Edit :=
  [.appendText 1 "htb", .appendAttribute 2 payload, .setSequence 7, .setSequence 9]

theorem writeAll_refusedEdits {payload : Bytes} (long : maxAttributePayload < payload.length) :
    writeAll (refusedEdits payload) (newBuffer 36 5) =
      Request.draft ⟨36, 5, 9, 0, [8, 0, 1, 0, 104, 116, 98, 0]⟩ ∧
    succeeding (refusedEdits payload) (newBuffer 36 5) =
      [.appendText 1 "htb", .setSequence 7, .setSequence 9] := by
  have refused := Edit.writeAttribute_of_lt long 2
  constructor
  · simp only [writeAll, refusedEdits, List.foldl_cons, List.foldl_nil, Edit.write, refused]
    decide
  · simp only [refusedEdits, succeeding, Edit.write, refused]
    rfl

theorem builds_and_writeAll_refusedEdits :
    ∃ edits, (writeAll edits (newBuffer 36 5)).length < UInt32.size ∧
    (∀ edit ∈ edits, ¬ Edit.isRaw edit) ∧ (succeeding edits (newBuffer 36 5)).length = 3 ∧
    edits.length = 4 ∧
    ∃ header : MessageHeader, header.sequence = 9 ∧
      Message.parseAll (finishBuffer (writeAll edits (newBuffer 36 5))) =
        .ok [⟨header, [8, 0, 1, 0, 104, 116, 98, 0]⟩] ∧
      Attribute.writeAll [.ofText 1 "htb"] = .ok [8, 0, 1, 0, 104, 116, 98, 0] := by
  have long : maxAttributePayload < (Bytes.zeros 65532).length := by
    rw [Bytes.length_zeros]
    decide
  obtain ⟨buffer, succeeded⟩ := writeAll_refusedEdits long
  obtain ⟨builds, leaves⟩ := builds_and_writeAll 36 5 (refusedEdits (Bytes.zeros 65532))
  have fits : (writeAll (refusedEdits (Bytes.zeros 65532)) (newBuffer 36 5)).length <
      UInt32.size := by
    rw [buffer]
    decide
  have transparent : ∀ edit ∈ refusedEdits (Bytes.zeros 65532), ¬ Edit.isRaw edit := by decide
  obtain ⟨header, parsed, _, _, _, sequence, _⟩ := builds.parsed fits
  have alone := leaves transparent
  rw [succeeded, buffer] at alone
  rw [buffer] at parsed
  refine ⟨_, fits, transparent, ?_, rfl, header, sequence, ?_, alone⟩
  · rw [succeeded]
    rfl
  · rw [buffer]
    exact parsed

end Request

end TrafficShaping
