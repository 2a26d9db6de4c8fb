import TrafficShaping.Bytes
import TrafficShaping.Error

/-!
Memory layouts of fixed size.

A layout writes a value as bytes and reads it back from the front of a byte string, leaving the rest
alone. Layouts of words, least significant byte first, are put together in the order of the fields
with `Layout.pair` and given the type of a record with `Layout.map`. `Record` names the layout of a
type, so that `Record.read` can say which record is truncated.
-/

namespace TrafficShaping

/-- How the values of a type lie in memory. -/
structure Layout (α : Type) where
  /-- The number of bytes of every value. -/
  size : Nat
  /-- The bytes of a value. -/
  write : α → Bytes
  /-- The value at the front of a byte string and what follows it; `none` when it is too short. -/
  read? : Bytes → Option (α × Bytes)

namespace Layout

variable {α β : Type}

/-- Bytes as they are. -/
def bytes (n : Nat) : Layout (Bytes.Exact n) where
  size := n
  write data := data.val
  read? data :=
    match h : Bytes.splitExact? n data with
    | some (front, rest) => some (⟨front, (Bytes.splitExact?_eq_some h).1⟩, rest)
    | none => none

/-- Words of `n` bytes, least significant byte first. -/
def word (n : Nat) (ofNat : Nat → α) (toNat : α → Nat) : Layout α where
  size := n
  write value := Bytes.ofNat n (toNat value)
  read? data := (Bytes.splitExact? n data).map fun (front, rest) => (ofNat front.toNat, rest)

/-- A value of another type in the same bytes. -/
def map (layout : Layout α) (build : α → β) (parts : β → α) : Layout β where
  size := layout.size
  write value := layout.write (parts value)
  read? data := (layout.read? data).map fun (value, rest) => (build value, rest)

/-- Two values, one after the other. -/
def pair (first : Layout α) (second : Layout β) : Layout (α × β) where
  size := first.size + second.size
  write value := first.write value.1 ++ second.write value.2
  read? data := do
    let (a, rest) ← first.read? data
    let (b, rest) ← second.read? rest
    some ((a, b), rest)

/-- A byte. -/
def uint8 : Layout UInt8 := word 1 UInt8.ofNat UInt8.toNat

/-- A word of 16 bits. -/
def uint16 : Layout UInt16 := word 2 UInt16.ofNat UInt16.toNat

/-- A word of 32 bits. -/
def uint32 : Layout UInt32 := word 4 UInt32.ofNat UInt32.toNat

/-- A word of 64 bits. -/
def uint64 : Layout UInt64 := word 8 UInt64.ofNat UInt64.toNat

/-- A signed word of 16 bits. -/
def int16 : Layout Int16 := uint16.map UInt16.toInt16 Int16.toUInt16

/-- A signed word of 32 bits. -/
def int32 : Layout Int32 := uint32.map UInt32.toInt32 Int32.toUInt32

/-- The value at the front of a byte string, which may be longer, and what follows it; `what` is
truncated when the byte string is too short. -/
def readFrontAs (what : String) (layout : Layout α) (data : Bytes) : Except Error (α × Bytes) :=
  match layout.read? data with
  | some front => .ok front
  | none => .error (.truncated what layout.size data.length)

/-- The value at the front of a byte string, which may be longer. -/
def readAs (what : String) (layout : Layout α) (data : Bytes) : Except Error α :=
  (layout.readFrontAs what data).map Prod.fst

end Layout

/-- A type whose values are records of the kernel's binary interface. -/
class Record (α : Type) where
  /-- What the record is called when bytes are missing. -/
  name : String
  layout : Layout α

namespace Record

variable {α : Type} [Record α]

/-- The number of bytes of a record of the type. -/
def size (α : Type) [Record α] : Nat := (layout : Layout α).size

/-- The bytes of a record. -/
def toBytes (value : α) : Bytes := layout.write value

/-- The record at the front of a byte string, which may be longer, and what follows it. -/
def readFront (α : Type) [Record α] (data : Bytes) : Except Error (α × Bytes) :=
  (layout : Layout α).readFrontAs (name α) data

/-- The record at the front of a byte string, which may be longer. -/
def read (α : Type) [Record α] (data : Bytes) : Except Error α :=
  (readFront α data).map Prod.fst

end Record

end TrafficShaping
