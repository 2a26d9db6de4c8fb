import TrafficShaping.Kernel.Handler
import TrafficShaping.Kernel.Request

/-!
How the kernel sets up and removes qdiscs.

A request names a place and perhaps a handle. A qdisc of that handle at the place is changed, which
changes its options only; otherwise a qdisc is created and takes the place of the one that was
there. A qdisc goes with all that is below it: its classes, and the qdiscs that are attached to
classes of its major number.
-/

namespace TrafficShaping.Kernel

/-- The kinds of qdiscs that can be created. -/
def qdiscKinds : List String :=
  ["htb", "hfsc", "netem", "pfifo_fast", "pfifo", "ingress", "clsact", "drr", "fq_codel", "sfq",
    "tbf"]

/-! ## Removal -/

/-- Entries without those of a handle on a link. -/
def without (link : UInt32) (handle : Handle) (entries : List Entry) : List Entry :=
  entries.filter (!·.isNamed link handle)

/-- Fewer entries are left when one of the handle was there. -/
theorem length_without_lt {link : UInt32} {handle : Handle} {entries : List Entry}
    (present : entries.any (·.isNamed link handle) = true) :
    (without link handle entries).length < entries.length := by
  obtain ⟨entry, member, named⟩ := List.any_eq_true.mp present
  exact List.length_filter_lt_length_iff_exists.mpr ⟨entry, member, by simp [named]⟩

/-- The qdiscs that are attached to a class of a major number on a link. -/
def attachedBelow (link : UInt32) (major : UInt16) (qdiscs : List Entry) : List Entry :=
  qdiscs.filter fun entry =>
    entry.place.link == link && entry.place.parent.namesClass && entry.place.parent.major == major

/-- Qdiscs and classes without the qdiscs of some handles on a link and without all that is below
them. -/
def prune (link : UInt32) (pending : List Handle) (qdiscs classes : List Entry) :
    List Entry × List Entry :=
  match pending with
  | [] => (qdiscs, classes)
  | handle :: pending =>
    if qdiscs.any (·.isNamed link handle) then
      let others := without link handle qdiscs
      if handle.major = 0 then prune link pending others classes
      else
        let below := (attachedBelow link handle.major others).map (·.place.handle)
        prune link (below ++ pending) others (classes.filter (!·.isOwned link handle.major))
    else prune link pending qdiscs classes
termination_by (qdiscs.length, pending.length)
decreasing_by
  · exact Prod.Lex.left _ _ (length_without_lt ‹_›)
  · exact Prod.Lex.left _ _ (length_without_lt ‹_›)
  · exact Prod.Lex.right _ (Nat.lt_succ_self _)

/-- The kernel without the qdiscs of some handles on a link and without all that is below them. -/
def remove (kernel : Kernel) (link : UInt32) (handles : List Handle) : Kernel :=
  let (qdiscs, classes) := prune link handles kernel.qdiscs kernel.classes
  { kernel with qdiscs, classes }

/-! ## Places -/

/-- The qdisc at a place. A class that is to be the parent must exist, and its qdisc too. -/
def qdiscAt (kernel : Kernel) (link : UInt32) (parent : Handle) :
    Except Refusal (Option Entry) :=
  if !parent.namesClass then .ok (kernel.child? link parent)
  else if parent.major = 0 ∨ kernel.qdisc? link parent.qdisc = none then .error .missingOwner
  else if kernel.class? link parent = none then .error .missingClass
  else .ok (kernel.child? link parent)

/-! ## Set up -/

/-- What a request does to the qdisc at its place. -/
inductive Plan where
  | change
  | create
  deriving DecidableEq, Repr

/-- What a request does to the qdisc at its place, where a qdisc that the kernel attached by itself
is as good as none. Without a handle, a request to create or replace makes a new qdisc when the kind
is another one or the old one must not exist. -/
def plan (kernel : Kernel) (flags : UInt16) (place : Placement) (kind : String)
    (present : Option Entry) : Except Refusal Plan :=
  let handle := place.handle
  let exclusive := MessageFlag.isSet flags MessageFlag.exclusive
  let replace := MessageFlag.isSet flags MessageFlag.replace
  let create := MessageFlag.isSet flags MessageFlag.create
  match present.filter fun qdisc => handle.isNone || qdisc.place.handle == handle with
  | some qdisc =>
    if handle.isNone && create && replace && (exclusive || qdisc.kind != kind) then .ok .create
    else if exclusive then .error .qdiscExists
    else if qdisc.kind != kind then .error .otherKind
    else .ok .change
  | none =>
    if handle.isNone then .ok .create
    else if present.isSome && !replace then .error .occupied
    else if handle.minor != 0 then .error .minorHandle
    else if (kernel.qdisc? place.link handle).isSome then
      .error (if exclusive then .handleExists else .attachedElsewhere)
    else .ok .create

/-- The kernel with one more qdisc. -/
def withQdisc (kernel : Kernel) (qdisc : Entry) : Kernel :=
  { kernel with qdiscs := kernel.qdiscs ++ [qdisc] }

/-- The handle for a qdisc: the one asked for, or else the next major number. -/
def takeHandle (asked : Handle) : Handler Handle :=
  if asked.isNone then
    modifyGet fun (kernel : Kernel) =>
      (⟨kernel.nextMajor <<< 16⟩, { kernel with nextMajor := kernel.nextMajor + 1 })
  else pure asked

/-- A request to set up a qdisc. -/
def newQdisc (flags : UInt16) (request : TrafficRequest) : Handler Unit := do
  let place := request.record.place
  Handler.check (·.requireLink place.link)
  match request.kind with
  | none => throw .missingKind
  | some kind =>
    let attached ← Handler.check (·.qdiscAt place.link place.parent)
    let present := attached.filter (!·.place.handle.isNone)
    match ← Handler.check (·.plan flags place kind present) with
    | .change =>
      modify fun kernel =>
        { kernel with
          qdiscs := Entry.setOptions (·.isAttached place.link place.parent) request.options
            kernel.qdiscs }
    | .create =>
      if !MessageFlag.isSet flags MessageFlag.create then throw .notCreated
      else if !qdiscKinds.contains kind then throw .unknownKind
      else
        let handle ← takeHandle place.handle
        modify (·.remove place.link (attached.toList.map (·.place.handle)))
        modify (·.withQdisc ⟨{ place with handle }, kind, request.options⟩)

/-- A request to remove a qdisc. When the qdisc of a link itself is removed, the kernel attaches
another one. -/
def deleteQdisc (request : TrafficRequest) : Handler Unit := do
  let place := request.record.place
  Handler.check (·.requireLink place.link)
  if place.parent.isNone then throw .missingParent
  else
    match ← Handler.check (·.qdiscAt place.link place.parent) with
    | none => throw .nothingAttached
    | some qdisc =>
      let handle := qdisc.place.handle
      if !place.handle.isNone && handle != place.handle then throw .otherHandle
      else if handle.isNone then throw .zeroHandle
      else
        modify (·.remove place.link [handle])
        if place.parent.isRoot then modify (·.withQdisc (.defaultRoot place.link)) else pure ()

end TrafficShaping.Kernel
