import TrafficShaping.Wire.Attribute

/-!
Messages: a header, a payload, and filling up to a multiple of four bytes.

A datagram holds messages one after the other. `Message.split` yields them in order and ends with an
error at the first whose length is wrong. `ErrorReport` is the payload of a message that reports an
error or acknowledges a request, and `Message.rejection?` reads it.
-/

namespace TrafficShaping

/-! ## Types and flags -/

namespace MessageType

def error : UInt16 := 2
def done : UInt16 := 3
def newLink : UInt16 := 16
def getLink : UInt16 := 18
def newQdisc : UInt16 := 36
def deleteQdisc : UInt16 := 37
def getQdisc : UInt16 := 38
def newClass : UInt16 := 40
def deleteClass : UInt16 := 41
def getClass : UInt16 := 42

end MessageType

namespace MessageFlag

def request : UInt16 := 0x001
def multi : UInt16 := 0x002
def acknowledge : UInt16 := 0x004
def dump : UInt16 := 0x300
def replace : UInt16 := 0x100
/-- The object must not exist. -/
def exclusive : UInt16 := 0x200
def create : UInt16 := 0x400
/-- An error report echoes only the header of the request. -/
def capped : UInt16 := 0x100
def reportAttributes : UInt16 := 0x200

/-- Whether all bits of a flag are set. -/
def isSet (flags flag : UInt16) : Bool := flags &&& flag == flag

end MessageFlag

/-! ## Headers -/

/-- The header of a message. -/
structure MessageHeader where
  /-- The length of header and payload, without the filling. -/
  length : UInt32
  type : UInt16
  flags : UInt16
  /-- The number that a reply shares with its request. -/
  sequence : UInt32
  sender : UInt32
  deriving DecidableEq, Repr

namespace MessageHeader

instance : Record MessageHeader where
  name := "nlmsghdr"
  layout :=
    (Layout.uint32.pair (Layout.uint16.pair (Layout.uint16.pair
      (Layout.uint32.pair Layout.uint32)))).map
    (fun (length, type, flags, sequence, sender) => ⟨length, type, flags, sequence, sender⟩)
    (fun header => (header.length, header.type, header.flags, header.sequence, header.sender))

theorem lawful_layout : (Record.layout : Layout MessageHeader).Lawful :=
  Layout.Lawful.map
    (Layout.lawful_uint32.pair (Layout.lawful_uint16.pair (Layout.lawful_uint16.pair
      (Layout.lawful_uint32.pair Layout.lawful_uint32))))
    (fun _ => rfl) (fun _ => rfl)

/-- The length of a header. -/
def size : Nat := 16

/-- The header of an empty message. -/
def ofType (type flags : UInt16) : MessageHeader := ⟨UInt32.ofNat size, type, flags, 0, 0⟩

/-- The length of the payload, zero when the length does not even cover the header. -/
def payloadLength (header : MessageHeader) : Nat := header.length.toNat - size

/-- Whether the message reports an error or acknowledges a request. -/
def isError (header : MessageHeader) : Bool := header.type == MessageType.error

/-- Whether the message ends a dump. -/
def isDone (header : MessageHeader) : Bool := header.type == MessageType.done

/-- Whether the message is part of a dump. -/
def isMulti (header : MessageHeader) : Bool := MessageFlag.isSet header.flags MessageFlag.multi

end MessageHeader

/-! ## Messages -/

/-- A message as it is received. -/
structure Message where
  header : MessageHeader
  /-- The bytes behind the header, without the filling. -/
  payload : Bytes
  deriving DecidableEq, Repr

namespace Message

/-- The message at the front of a byte string and what follows it and its filling, of which the end
of the byte string may have cut off a part. -/
def take (header : MessageHeader) (rest : Bytes) : Except Error (Message × Bytes) :=
  let fault : Error := .wireFormat (.messageLength header.length.toNat)
  if header.length.toNat < MessageHeader.size then .error fault
  else
    match Bytes.splitExact? header.payloadLength rest with
    | none => .error fault
    | some (payload, later) =>
      .ok (⟨header, payload⟩, later.drop (Bytes.align payload.length - payload.length))

theorem length_le_of_take {header : MessageHeader} {data rest : Bytes} {message : Message}
    (taken : take header data = .ok (message, rest)) : rest.length ≤ data.length := by
  simp only [take] at taken
  split at taken
  · cases taken
  · split at taken
    · cases taken
    · next payload later cut =>
        cases taken
        have whole := congrArg List.length (Bytes.splitExact?_eq_some cut).2
        simp only [List.length_append, List.length_drop] at whole ⊢
        omega

/-- The messages of a datagram in order. A message of a wrong length is the last that is looked at,
and bytes at the end that do not make a header are passed over. -/
def split (data : Bytes) : List (Except Error Message) :=
  match _ : (Record.layout : Layout MessageHeader).read? data with
  | none => []
  | some (header, rest) =>
    match _ : take header rest with
    | .error error => [.error error]
    | .ok (message, later) => .ok message :: split later
termination_by data.length
decreasing_by
  have used := MessageHeader.lawful_layout.length_eq ‹_›
  have left := length_le_of_take ‹_›
  have size : (Record.layout : Layout MessageHeader).size = 16 := rfl
  omega

/-- The messages of a datagram, all of which must have a right length. -/
def parseAll (data : Bytes) : Except Error (List Message) := (split data).mapM id

/-- Whether the message ends a dump. -/
def isDone (message : Message) : Bool := message.header.isDone

end Message

/-! ## Error reports -/

/-- The payload of a message that reports an error: a code, which is zero in an acknowledgement, and
the header of the request. -/
structure ErrorReport where
  /-- The error number with a minus sign, or zero. -/
  code : Int32
  request : MessageHeader
  deriving DecidableEq, Repr

namespace ErrorReport

instance : Record ErrorReport where
  name := "nlmsgerr"
  layout := (Layout.int32.pair (Record.layout : Layout MessageHeader)).map
    (fun (code, request) => ⟨code, request⟩) (fun report => (report.code, report.request))

theorem lawful_layout : (Record.layout : Layout ErrorReport).Lawful :=
  (Layout.lawful_int32.pair MessageHeader.lawful_layout).map (fun _ => rfl) (fun _ => rfl)

/-- The length of a report. -/
def size : Nat := 20

def textTag : UInt16 := 1

/-- Whether the report acknowledges the request. -/
def isAcknowledgement (report : ErrorReport) : Bool := report.code == 0

/-- The attributes behind the report in `payload`. Unless the message is capped, the kernel repeats
the payload of the request before them. -/
def attributes (report : ErrorReport) (payload : Bytes) (flags : UInt16) : List Tagged :=
  if MessageFlag.isSet flags MessageFlag.reportAttributes then
    let echoed :=
      if MessageFlag.isSet flags MessageFlag.capped then 0
      else Bytes.align report.request.payloadLength
    Tagged.scan (payload.drop (size + echoed))
  else []

/-- The text that the kernel gives for the error, if it is there, readable and not empty. -/
def text? (report : ErrorReport) (payload : Bytes) (flags : UInt16) : Option String := do
  let data ← Tagged.find? (report.attributes payload flags) textTag
  let text ← (Payload.readText data).toOption
  if text.isEmpty then none else some text

/-- The rejection that is reported; `none` for an acknowledgement. -/
def rejection? (report : ErrorReport) (payload : Bytes) (flags : UInt16) : Option Error :=
  if report.isAcknowledgement then none
  else
    match report.text? payload flags with
    | some text =>
      some (.ofCodeWithText report.code s!"{Errno.describe report.code.abs}: {text}")
    | none => some (.ofCode report.code)

end ErrorReport

/-- The rejection that a message reports; `none` for an acknowledgement and for any other message.
It fails when the message is too short to be a report. -/
def Message.rejection? (message : Message) : Except Error (Option Error) :=
  if message.header.isError then
    (Record.read ErrorReport message.payload).map
      (·.rejection? message.payload message.header.flags)
  else .ok none

/-- The first of some messages that decides: a rejection, or a report that is too short. -/
def Message.checkAll : List Message → Except Error Unit
  | [] => .ok ()
  | message :: rest => do
    match ← message.rejection? with
    | some rejection => .error rejection
    | none => checkAll rest

end TrafficShaping
