import TrafficShaping.Client.Call
import TrafficShaping.Text.Blank
import TrafficShaping.Wire.Records

/-!
Finding the index of a link.

A link is given by its index or by its name. A name that no link can have is not asked for. The
first reply that describes a link or reports an error decides.
-/

namespace TrafficShaping

/-- How a link is given. -/
inductive LinkRef where
  | name (text : String)
  | index (number : UInt32)
  deriving DecidableEq, Repr

namespace LinkRef

/-- The name, if the link is given by it. -/
def name? : LinkRef → Option String
  | .name text => some text
  | .index _ => none

/-- The index, if the link is given by it. -/
def index? : LinkRef → Option UInt32
  | .name _ => none
  | .index number => some number

/-- The link in words. -/
def text : LinkRef → String
  | .name text => text
  | .index number => s!"ifindex:{number.toNat}"

/-- The bytes that a name may take, with the zero byte that ends it. -/
def nameLimit : Nat := 16

/-- Whether a link can have a name: it is not empty, not too long, and free of slashes, zero bytes
and white space. -/
def isName (name : String) : Bool :=
  !name.isEmpty && (Text.Utf8.encode name).length < nameLimit
    && name.toList.all fun c => c != '/' && c != '\x00' && !Text.isBlank c

/-- The request for the link of a name. -/
def request (name : String) : Except Error Request :=
  if isName name then
    ((Request.ofType MessageType.getLink
      (MessageFlag.request ||| MessageFlag.acknowledge)).appendRecord
        (LinkRecord.ofIndex 0)).appendText LinkRecord.nameTag name
  else .error (.interfaceNotFound name)

/-- An error met in finding a name. -/
def explain (name : String) (error : Error) : Error :=
  if error.isNotFound then .interfaceNotFound name
  else error.withContext s!"resolving interface {name}"

/-- The index that the replies to the request for a name tell. -/
def readIndex (name : String) : List Message → Except Error UInt32
  | [] => .error (.interfaceNotFound name)
  | reply :: rest => do
    match ← reply.rejection? with
    | some rejection => .error (explain name rejection)
    | none =>
      if reply.header.type = MessageType.newLink then
        (Record.read LinkRecord reply.payload).map LinkRecord.linkIndex
      else readIndex name rest

/-- The call that finds the index of a link. -/
def resolve : LinkRef → Call UInt32
  | .index number => .answer (.ok number)
  | .name text => .ofRequest (request text) (readIndex text)

end LinkRef

end TrafficShaping
