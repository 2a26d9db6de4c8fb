import TrafficShaping.Kernel.Qdiscs

/-!
How the kernel sets up and removes classes.

A class belongs to the qdisc of its major number. Where the request leaves the major number out, it
is that of the parent, and failing that, that of the qdisc of the link itself. A class is removed
with the qdiscs below it, but not while there are classes below it.
-/

namespace TrafficShaping.Kernel

/-- The kinds of qdiscs that have classes. -/
def classfulKinds : List String := ["htb", "hfsc", "drr"]

/-- The handle of the qdisc that is attached to a link itself. -/
def rootHandle (kernel : Kernel) (link : UInt32) : Handle :=
  ((kernel.child? link .root).map (·.place.handle)).getD .none

/-- The handle of the qdisc that the class at a place belongs to. -/
def ownerHandle (kernel : Kernel) (place : Placement) : Except Refusal Handle :=
  let own := place.handle.qdisc
  let parent := if place.parent.isRoot then .none else place.parent.qdisc
  if !own.isNone then
    if !parent.isNone && own != parent then .error .differentOwners else .ok own
  else if !parent.isNone then .ok parent
  else .ok (kernel.rootHandle place.link)

/-- The qdisc that the class at a place belongs to, and the full handle of the class. -/
def classTarget (kernel : Kernel) (place : Placement) : Except Refusal (Entry × Handle) := do
  kernel.requireLink place.link
  let owner ← kernel.ownerHandle place
  match kernel.qdisc? place.link owner with
  | none => .error .missingQdisc
  | some qdisc =>
    if !classfulKinds.contains qdisc.kind then .error .classless
    else if place.handle.minor = 0 then .error .noMinor
    else .ok (qdisc, .ofParts owner.major place.handle.minor)

/-- The kernel with one more class. -/
def withClass (kernel : Kernel) (tclass : Entry) : Kernel :=
  { kernel with classes := kernel.classes ++ [tclass] }

/-- A request to set up a class. A class directly below its qdisc has the handle of the qdisc for a
parent. -/
def newClass (flags : UInt16) (request : TrafficRequest) : Handler Unit := do
  let place := request.record.place
  let (qdisc, handle) ← Handler.check (·.classTarget place)
  if (← Handler.check fun kernel => .ok (kernel.class? place.link handle)).isSome then
    if MessageFlag.isSet flags MessageFlag.exclusive then throw .classExists
    else
      modify fun kernel =>
        { kernel with
          classes := Entry.setOptions (·.isNamed place.link handle) request.options
            kernel.classes }
  else if !MessageFlag.isSet flags MessageFlag.create then throw .missingClass
  else
    let parent := if place.parent.isRoot then qdisc.place.handle else place.parent
    Handler.check fun kernel =>
      if parent != qdisc.place.handle && (kernel.class? place.link parent).isNone then
        .error .missingParentClass
      else .ok ()
    modify (·.withClass ⟨⟨place.link, handle, parent⟩, qdisc.kind, request.options⟩)

/-- Whether a class can be removed: it exists, and there is no class below it. -/
def requireChildless (kernel : Kernel) (link : UInt32) (handle : Handle) : Except Refusal Unit :=
  if (kernel.class? link handle).isNone then .error .missingClass
  else if kernel.classes.any (·.isAttached link handle) then .error .hasChildren
  else .ok ()

/-- The kernel without the first class of a handle. -/
def withoutClass (kernel : Kernel) (link : UInt32) (handle : Handle) : Kernel :=
  { kernel with classes := kernel.classes.eraseP (·.isNamed link handle) }

/-- The handles of the qdiscs that are attached to a parent. -/
def attachedHandles (kernel : Kernel) (link : UInt32) (parent : Handle) : List Handle :=
  (kernel.qdiscs.filter (·.isAttached link parent)).map (·.place.handle)

/-- A request to remove a class. -/
def deleteClass (request : TrafficRequest) : Handler Unit := do
  let place := request.record.place
  let (_, handle) ← Handler.check (·.classTarget place)
  Handler.check (·.requireChildless place.link handle)
  modify (·.withoutClass place.link handle)
  modify fun kernel => kernel.remove place.link (kernel.attachedHandles place.link handle)

end TrafficShaping.Kernel
