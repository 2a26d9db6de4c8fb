import TrafficShaping.Error.Errno

/-!
Why the kernel refuses a request: a cause, of which the client gets to see an error number and a
text.
-/

namespace TrafficShaping

/-- Why the kernel refuses a request. -/
inductive Refusal where
  /-- The request is too short for the record of a qdisc or a class. -/
  | shortTrafficRecord
  /-- The request is too short for the record of a link. -/
  | shortLinkRecord
  /-- The attributes of the request are malformed. -/
  | malformedAttributes
  /-- The request tries to set statistics. -/
  | readOnlyStatistics
  /-- The kind is not a text. -/
  | unreadableKind
  /-- The link does not exist. -/
  | missingDevice
  /-- A qdisc has no kind. -/
  | missingKind
  /-- The qdisc that is to own the class above does not exist. -/
  | missingOwner
  /-- The class does not exist. -/
  | missingClass
  /-- Another qdisc is attached where the qdisc is to go, and it is not to be replaced. -/
  | occupied
  /-- The handle of a qdisc has a minor number. -/
  | minorHandle
  /-- The handle is in use, and the qdisc must not exist. -/
  | handleExists
  /-- The handle is in use at another place. -/
  | attachedElsewhere
  /-- The qdisc exists and must not. -/
  | qdiscExists
  /-- The qdisc is of another kind. -/
  | otherKind
  /-- The qdisc does not exist and is not to be created. -/
  | notCreated
  /-- There is no such kind of qdisc. -/
  | unknownKind
  /-- A qdisc is to be removed and its parent is not given. -/
  | missingParent
  /-- No qdisc is attached at the place. -/
  | nothingAttached
  /-- The qdisc at the place has another handle. -/
  | otherHandle
  /-- The qdisc that the kernel attached by itself cannot be removed. -/
  | zeroHandle
  /-- A class and its parent have different major numbers. -/
  | differentOwners
  /-- The qdisc that is to own the class does not exist. -/
  | missingQdisc
  /-- The qdisc has no classes. -/
  | classless
  /-- The handle of a class has no minor number. -/
  | noMinor
  /-- The class exists and must not. -/
  | classExists
  /-- The class above does not exist. -/
  | missingParentClass
  /-- There are classes below the class. -/
  | hasChildren
  /-- There is no request of the type. -/
  | unsupported
  deriving DecidableEq, Repr

namespace Refusal

/-- The error number of a refusal. -/
def errno : Refusal → Int32
  | missingOwner | missingClass | notCreated | unknownKind | nothingAttached | zeroHandle
  | missingQdisc | missingParentClass => Errno.noEntry
  | hasChildren => Errno.busy
  | occupied | handleExists | qdiscExists | classExists => Errno.fileExists
  | missingDevice => Errno.noDevice
  | unsupported => Errno.notSupported
  | shortTrafficRecord | shortLinkRecord | malformedAttributes | readOnlyStatistics
  | unreadableKind | missingKind | minorHandle | attachedElsewhere | otherKind | missingParent
  | otherHandle | differentOwners | classless | noMinor => Errno.invalid

/-- The text of a refusal. -/
def text : Refusal → String
  | shortTrafficRecord => "short tcmsg"
  | shortLinkRecord => "short ifinfomsg"
  | malformedAttributes => "malformed attributes"
  | readOnlyStatistics => "statistics are read-only"
  | unreadableKind => "invalid TCA_KIND"
  | missingDevice => "Cannot find device"
  | missingKind => "qdisc kind required"
  | missingOwner => "Failed to find specified qdisc"
  | missingClass => "Specified class not found"
  | occupied => "NLM_F_REPLACE needed to override"
  | minorHandle => "Invalid minor handle"
  | handleExists => "Exclusivity flag on, cannot override"
  | attachedElsewhere => "Qdisc is attached elsewhere"
  | qdiscExists => "Exclusivity flag on, cannot modify"
  | otherKind => "Invalid qdisc name"
  | notCreated => "Qdisc not found. To create specify NLM_F_CREATE flag"
  | unknownKind => "Specified qdisc kind is unknown"
  | missingParent => "Parent required for deletion"
  | nothingAttached => "Cannot find specified qdisc on specified device"
  | otherHandle => "Invalid handle"
  | zeroHandle => "Cannot delete qdisc with handle of zero"
  | differentOwners => "Class and parent belong to different qdiscs"
  | missingQdisc => "Specified qdisc not found"
  | classless => "Qdisc is classless"
  | noMinor => "Invalid class handle"
  | classExists => "Class already exists"
  | missingParentClass => "Parent class not found"
  | hasChildren => "Class has children"
  | unsupported => "operation not supported"

end Refusal

end TrafficShaping
