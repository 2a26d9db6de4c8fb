import TrafficShaping.Kernel.Refusal
import TrafficShaping.Wire.Records

/-!
The state of the kernel: its links, and the qdiscs and classes on them.

The kernel knows an object by its place, its kind and the bytes of its options, which it does not
look into. Qdiscs and classes stand in the order in which they were created. A link starts with a
qdisc that the kernel attaches by itself, which has no handle.
-/

namespace TrafficShaping

/-- A link. -/
structure Link where
  /-- The number that the kernel has for it. -/
  index : UInt32
  name : String
  deriving DecidableEq, Repr

/-- A qdisc or a class as the kernel holds it. -/
structure Entry where
  place : Placement
  kind : String
  options : Option Bytes
  deriving DecidableEq, Repr

namespace Entry

/-- Whether the entry has a handle on a link. -/
def isNamed (link : UInt32) (handle : Handle) (entry : Entry) : Bool :=
  entry.place.link == link && entry.place.handle == handle

/-- Whether the entry is attached to a parent on a link. -/
def isAttached (link : UInt32) (parent : Handle) (entry : Entry) : Bool :=
  entry.place.link == link && entry.place.parent == parent

/-- Whether the entry is a class of the qdisc with a major number on a link. -/
def isOwned (link : UInt32) (major : UInt16) (entry : Entry) : Bool :=
  entry.place.link == link && entry.place.handle.major == major

/-- The qdisc that the kernel attaches to a link by itself. -/
def defaultRoot (link : UInt32) : Entry :=
  ⟨⟨link, .none, .root⟩, QdiscKind.pfifoFast.name, some PfifoFast.standard.encode⟩

end Entry

/-- Entries where the first one that satisfies a condition has been given options, if there are
any. -/
def Entry.setOptions (condition : Entry → Bool) (options : Option Bytes) (entries : List Entry) :
    List Entry :=
  match options with
  | some _ => entries.modify (entries.findIdx condition) ({ · with options })
  | none => entries

/-- Whether a parent is a class and not one of the places that no object owns. -/
def Handle.namesClass (parent : Handle) : Bool :=
  !(parent.isRoot || parent.isIngress || parent.isClsact || parent.isNone)

/-- The state of the kernel. -/
structure Kernel where
  links : List Link
  qdiscs : List Entry
  classes : List Entry
  /-- The major number of the next qdisc that comes without handle. -/
  nextMajor : UInt32
  deriving DecidableEq, Repr

namespace Kernel

/-- The kernel without links. -/
def empty : Kernel := ⟨[], [], [], 0x8001⟩

/-- The kernel with one more link, to which its default qdisc is attached. -/
def withLink (kernel : Kernel) (link : Link) : Kernel :=
  { kernel with
    links := kernel.links ++ [link]
    qdiscs := kernel.qdiscs ++ [.defaultRoot link.index] }

/-- The kernel with some links. -/
def ofLinks (links : List Link) : Kernel := links.foldl withLink empty

/-- The first qdisc of a handle. -/
def qdisc? (kernel : Kernel) (link : UInt32) (handle : Handle) : Option Entry :=
  kernel.qdiscs.find? (·.isNamed link handle)

/-- The first class of a handle. -/
def class? (kernel : Kernel) (link : UInt32) (handle : Handle) : Option Entry :=
  kernel.classes.find? (·.isNamed link handle)

/-- The first qdisc that is attached to a parent, whether that exists or not. -/
def child? (kernel : Kernel) (link : UInt32) (parent : Handle) : Option Entry :=
  kernel.qdiscs.find? (·.isAttached link parent)

/-- A request about a link is refused unless the link exists. -/
def requireLink (kernel : Kernel) (link : UInt32) : Except Refusal Unit :=
  if kernel.links.any (·.index == link) then .ok () else .error .missingDevice

end Kernel

end TrafficShaping
