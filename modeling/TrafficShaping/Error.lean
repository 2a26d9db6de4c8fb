import TrafficShaping.Error.Errno
import TrafficShaping.Text.Hexadecimal
import TrafficShaping.Text.Utf8

/-!
The errors of the library, by cause.

A rejection by the kernel carries what it means, the number of the error and a text. One that is
made from an error code means what the number says (`Error.ofCode`); what any rejection means is
asked of the rejection itself and not of its number. Only a rejection is put into the context of an
operation, so that an error that arose on this side keeps its own wording. `Error.message` words
every error.
-/

namespace TrafficShaping

/-- Why bytes are not what their format asks for. -/
inductive WireFault where
  /-- A record needs more bytes than there are. -/
  | truncated (what : String) (expected actual : Nat)
  /-- Fewer bytes are left at an offset than an attribute header has. -/
  | attributeHeader (offset left : Nat)
  /-- The attribute at an offset is shorter than its header or longer than what is left. -/
  | malformedAttribute (offset : Nat)
  /-- A message is shorter than its header or longer than what is left. -/
  | messageLength (length : Nat)
  | notUtf8 (fault : Text.Utf8.Fault)
  | missingKind
  | missingHtbParameters
  | other (text : String)
  deriving DecidableEq, Repr

/-- The wording of a fault. -/
def WireFault.message : WireFault → String
  | .truncated what expected actual =>
    s!"{what} truncated: expected {expected} bytes, got {actual}"
  | .attributeHeader offset left =>
    s!"attribute header at offset {offset} truncated: {left} bytes left"
  | .malformedAttribute offset => s!"malformed attribute at offset {offset}"
  | .messageLength length => s!"invalid message length: {length}"
  | .notUtf8 fault => s!"invalid UTF-8: {fault.message}"
  | .missingKind => "tc reply without TCA_KIND"
  | .missingHtbParameters => "htb class options without TCA_HTB_PARMS"
  | .other text => text

/-- Why values given by the caller cannot be sent. -/
inductive ConfigFault where
  | oversizedAttribute (tag : UInt16) (length : Nat)
  /-- Reordering needs packets that wait. -/
  | reorderWithoutLatency
  | clockWord (fault : Text.Hexadecimal.Fault)
  /-- The scheduler clock has four words. -/
  | clockWords (found : Nat)
  | other (text : String)
  deriving DecidableEq, Repr

/-- The longest payload that the length field of an attribute admits. -/
def maxAttributePayload : Nat := 65531

/-- The wording of a fault. -/
def ConfigFault.message : ConfigFault → String
  | .oversizedAttribute tag length =>
    s!"attribute {tag.toNat} payload of {length} bytes exceeds "
      ++ s!"the netlink limit of {maxAttributePayload}"
  | .reorderWithoutLatency => "netem: reordering requires a latency"
  | .clockWord fault => s!"invalid psched value: {fault.message}"
  | .clockWords found => s!"psched: expected 4 values, got {found}"
  | .other text => text

/-- What a rejection by the kernel means to the caller. -/
inductive Rejection where
  | notFound
  | alreadyExists
  | invalidArgument
  | permissionDenied
  /-- The kernel lacks the feature. -/
  | noKernelSupport
  /-- There is no meaning of its own for the error number. -/
  | unclassified
  deriving DecidableEq, Repr

/-- The meaning of an error number. -/
def Rejection.ofErrno (errno : Int32) : Rejection :=
  if errno = Errno.noEntry ∨ errno = Errno.noDevice then .notFound
  else if errno = Errno.fileExists then .alreadyExists
  else if errno = Errno.invalid ∨ errno = Errno.outOfRange then .invalidArgument
  else if errno = Errno.notPermitted ∨ errno = Errno.accessDenied then .permissionDenied
  else if errno = Errno.notSupported ∨ errno = Errno.protocolNotSupported then .noKernelSupport
  else .unclassified

/-- The words that introduce a rejection. -/
def Rejection.introduction : Rejection → String
  | .notFound => "not found"
  | .alreadyExists => "already exists"
  | .invalidArgument => "invalid argument"
  | .permissionDenied => "permission denied"
  | .noKernelSupport => "no kernel support"
  | .unclassified => "kernel error"

/-- An error of the library. -/
inductive Error where
  | transport (text : String)
  /-- Received bytes are malformed. -/
  | wireFormat (fault : WireFault)
  /-- The kernel refused a request. -/
  | rejected (meaning : Rejection) (errno : Int32) (text : String)
  /-- An error under the operation that met it. -/
  | context (operation : String) (cause : Error)
  | config (fault : ConfigFault)
  | handle (text : String)
  | interfaceNotFound (name : String)
  deriving DecidableEq, Repr

namespace Error

/-- The wording of an error. -/
def message : Error → String
  | .transport text => s!"transport error: {text}"
  | .wireFormat fault => s!"invalid wire format: {fault.message}"
  | .rejected meaning errno text => s!"{meaning.introduction}: {text} (errno {errno})"
  | .context operation cause => s!"{operation}: {cause.message}"
  | .config fault => s!"invalid configuration: {fault.message}"
  | .handle text => s!"invalid handle: {text}"
  | .interfaceNotFound name => s!"interface not found: {name}"

/-- The rejection for an error code of the kernel, whose sign does not matter, with a text. -/
def ofCodeWithText (code : Int32) (text : String) : Error :=
  .rejected (.ofErrno code.abs) code.abs text

/-- The rejection for an error code of the kernel, whose sign does not matter. -/
def ofCode (code : Int32) : Error := ofCodeWithText code (Errno.describe code.abs)

/-- A record that needs more bytes than there are. -/
def truncated (what : String) (expected actual : Nat) : Error :=
  .wireFormat (.truncated what expected actual)

/-- The error without the operations it was put under. -/
def root : Error → Error
  | .context _ cause => cause.root
  | error => error

/-- The error number of a rejection, whatever operations it was put under. -/
def errno? (error : Error) : Option Int32 :=
  match error.root with
  | .rejected _ errno _ => some errno
  | _ => none

/-- The error under an operation, when the kernel rejected it; any other error as it is. -/
def withContext (error : Error) (operation : String) : Error :=
  if error.errno?.isSome then .context operation error else error

/-- The meaning of a rejection, whatever operations it was put under. -/
def rejection? (error : Error) : Option Rejection :=
  match error.root with
  | .rejected meaning _ _ => some meaning
  | _ => none

/-- Whether something that the request names does not exist. -/
def isNotFound (error : Error) : Bool :=
  match error.root with
  | .rejected meaning _ _ => meaning = .notFound
  | .interfaceNotFound _ => true
  | _ => false

/-- Whether the object exists already. -/
def isAlreadyExists (error : Error) : Bool := error.rejection? = some .alreadyExists

/-- Whether the kernel refused the arguments. -/
def isInvalidArgument (error : Error) : Bool := error.rejection? = some .invalidArgument

/-- Whether the caller lacks a privilege. -/
def isPermissionDenied (error : Error) : Bool := error.rejection? = some .permissionDenied

/-- Whether the kernel lacks the feature. -/
def isNoKernelSupport (error : Error) : Bool := error.rejection? = some .noKernelSupport

/-- Whether received bytes are malformed. -/
def isWireFormat (error : Error) : Bool :=
  match error.root with
  | .wireFormat _ => true
  | _ => false

end Error

end TrafficShaping
