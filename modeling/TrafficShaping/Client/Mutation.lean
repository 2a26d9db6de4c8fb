import TrafficShaping.Class
import TrafficShaping.Client.Call
import TrafficShaping.Wire.Records

/-!
Mutations: calls that add, change, replace or delete a qdisc or a class.

The request carries the place of the object and, unless the object is deleted, its kind and options.
The first reply that reports an error decides, under the name of the operation; without one the call
has succeeded.
-/

namespace TrafficShaping

/-- What is done to an object. -/
inductive Mutation where
  /-- It is created and must not exist. -/
  | add
  /-- It is changed and must exist. -/
  | change
  | replace
  | delete
  deriving DecidableEq, Repr

namespace Mutation

/-- The name of a mutation. -/
def name : Mutation → String
  | add => "add"
  | change => "change"
  | replace => "replace"
  | delete => "del"

/-- The word for what is going on. -/
def gerund : Mutation → String
  | add => "adding"
  | change => "changing"
  | replace => "replacing"
  | delete => "deleting"

/-- The flags of the request. -/
def flags (mutation : Mutation) : UInt16 :=
  let modifiers : UInt16 :=
    match mutation with
    | add => MessageFlag.create ||| MessageFlag.exclusive
    | replace => MessageFlag.create ||| MessageFlag.replace
    | change | delete => 0
  MessageFlag.request ||| MessageFlag.acknowledge ||| modifiers

/-- The type of the request for a qdisc. -/
def qdiscType : Mutation → UInt16
  | delete => MessageType.deleteQdisc
  | _ => MessageType.newQdisc

/-- The type of the request for a class. -/
def classType : Mutation → UInt16
  | delete => MessageType.deleteClass
  | _ => MessageType.newClass

/-- The request of a type for an object: its place, and its kind and options unless it is
deleted. -/
def request (mutation : Mutation) (type : UInt16) (place : Placement) (kind : String)
    (options : Except Error (Option Bytes)) : Except Error Request := do
  let request := (Request.ofType type mutation.flags).appendRecord (TrafficRecord.ofPlace place 0)
  if mutation = delete then .ok request
  else
    let options ← options
    let request ← request.appendText TrafficTag.kind kind
    match options with
    | some data => request.appendAttribute TrafficTag.options data
    | none => .ok request

/-- The request that mutates a qdisc. -/
def qdiscRequest (mutation : Mutation) (qdisc : Qdisc) (clock : Clock) : Except Error Request :=
  mutation.request mutation.qdiscType qdisc.place qdisc.kindName (qdisc.settings.encode clock)

/-- The request that mutates a class. -/
def classRequest (mutation : Mutation) (tclass : Class) (clock : Clock) : Except Error Request :=
  mutation.request mutation.classType tclass.place tclass.kindName (tclass.settings.encode clock)

/-- What the replies say about a mutation of an object. -/
def interpret (mutation : Mutation) (object : String) (handle : Handle)
    (replies : List Message) : Except Error Unit :=
  (Message.checkAll replies).mapError
    (·.withContext s!"{mutation.gerund} {object} {handle.text}")

/-- The call that mutates a qdisc. -/
def ofQdisc (mutation : Mutation) (qdisc : Qdisc) (clock : Clock) : Call Unit :=
  .ofRequest (mutation.qdiscRequest qdisc clock) (mutation.interpret "qdisc" qdisc.place.handle)

/-- The call that mutates a class. -/
def ofClass (mutation : Mutation) (tclass : Class) (clock : Clock) : Call Unit :=
  .ofRequest (mutation.classRequest tclass clock) (mutation.interpret "class" tclass.place.handle)

end Mutation

end TrafficShaping
