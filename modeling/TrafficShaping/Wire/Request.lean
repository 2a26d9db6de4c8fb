import TrafficShaping.Wire.Message

/-!
Requests: messages that are put together piece by piece.

The pieces follow each other on four-byte boundaries. The length in the header is that of a message
without payload until `Request.finish` fills in the true one.
-/

namespace TrafficShaping

/-- A message under construction. -/
structure Request where
  type : UInt16
  flags : UInt16
  /-- The number that the replies will share. -/
  sequence : UInt32
  sender : UInt32
  payload : Bytes
  deriving DecidableEq, Repr

namespace Request

/-- A request without payload. -/
def ofType (type flags : UInt16) : Request := ⟨type, flags, 0, 0, []⟩

/-- The header, with a given length. -/
def header (request : Request) (length : Nat) : MessageHeader :=
  ⟨UInt32.ofNat length, request.type, request.flags, request.sequence, request.sender⟩

/-- The length of header and payload. -/
def length (request : Request) : Nat := MessageHeader.size + request.payload.length

/-- Whether there is no payload. -/
def isEmpty (request : Request) : Bool := request.payload.isEmpty

/-- The bytes before the length is filled in. -/
def draft (request : Request) : Bytes :=
  Record.toBytes (request.header MessageHeader.size) ++ request.payload

/-- The bytes of the message. -/
def finish (request : Request) : Bytes :=
  Record.toBytes (request.header request.length) ++ request.payload

/-- The request with bytes added. -/
def append (request : Request) (data : Bytes) : Request :=
  { request with payload := Bytes.padded (request.payload ++ data) }

/-- The request with a record added. -/
def appendRecord {α : Type} [Record α] (request : Request) (value : α) : Request :=
  request.append (Record.toBytes value)

/-- The request with an attribute added, whose payload must fit its length field. -/
def appendAttribute (request : Request) (type : UInt16) (payload : Bytes) :
    Except Error Request := do
  let header ← AttributeHeader.forPayload type payload.length
  .ok (request.append (Record.toBytes header ++ payload))

/-- The request with an attribute added that holds a text and the zero byte that ends it. -/
def appendText (request : Request) (type : UInt16) (text : String) : Except Error Request :=
  request.appendAttribute type (Text.Utf8.encode text ++ [0])

/-- The request under another sequence number. -/
def withSequence (request : Request) (sequence : UInt32) : Request :=
  { request with sequence := sequence }

/-- The request from another sender. -/
def withSender (request : Request) (sender : UInt32) : Request :=
  { request with sender := sender }

end Request

end TrafficShaping
