import Mathlib.Logic.ExistsUnique
import TrafficShaping.Proofs.Layout

/-!
Structures of the kernel, and records that lie in memory as they do.

A structure is a list of members. Each starts at the next multiple of its own alignment, and the
structure ends at the next multiple of the largest one; what is left out between them is filling.
`Structure.pack` writes a value by this rule. `Record.LiesAs` says that the records of a type are
written so and correspond, one to one, to the byte strings of their size, and
`Layout.Lawful.liesAs` derives it for every type whose layout keeps the law of layouts.
-/

namespace TrafficShaping

variable {α β : Type}

/-! ## Structures -/

/-- A member of a structure. -/
structure Member (α : Type) where
  width : Nat
  /-- The member starts at a multiple of this. -/
  alignment : Nat
  /-- The bytes that it has in a value of the structure. -/
  bytes : α → Bytes.Exact width

namespace Structure

variable (members : List (Member α))

/-- The filling from an offset to the next multiple of an alignment. -/
def gap (alignment offset : Nat) : Nat := (alignment - offset % alignment) % alignment

/-- The largest alignment of the members. -/
def alignment : Nat := (members.map Member.alignment).foldl max 1

/-- Where members end of which the first one starts at an offset or behind it. -/
def stop (offset : Nat) : List (Member α) → Nat
  | [] => offset
  | first :: later => stop (offset + gap first.alignment offset + first.width) later

/-- The number of bytes of a structure. -/
def size : Nat := stop 0 members + gap (alignment members) (stop 0 members)

/-- The bytes of members of which the first one starts at an offset or behind it. -/
def packFrom (value : α) (offset : Nat) : List (Member α) → Bytes
  | [] => []
  | first :: later =>
    let filling := gap first.alignment offset
    Bytes.zeros filling ++ ((first.bytes value).val ++
      packFrom value (offset + filling + first.width) later)

theorem add_length_packFrom (value : α) (offset : Nat) :
    offset + (packFrom value offset members).length = stop offset members := by
  induction members generalizing offset with
  | nil => rfl
  | cons first later ih =>
      have here := (first.bytes value).property
      have behind := ih (offset + gap first.alignment offset + first.width)
      simp only [packFrom, stop, List.length_append, Bytes.length_zeros]
      omega

/-- The bytes of a structure. -/
def pack (value : α) : Bytes.Exact (size members) :=
  ⟨packFrom value 0 members ++ Bytes.zeros (gap (alignment members) (stop 0 members)), by
    have length := add_length_packFrom members value 0
    rw [List.length_append, Bytes.length_zeros, size]
    omega⟩

end Structure

/-! ## Members -/

namespace Member

/-- A number without sign, least significant byte first. -/
def unsigned (width : Nat) (number : α → Nat) : Member α :=
  ⟨width, width, fun value => ⟨Bytes.ofNat width (number value), Bytes.length_ofNat _ _⟩⟩

/-- A number in two's complement, least significant byte first. -/
def signed (width : Nat) (number : α → Int) : Member α :=
  unsigned width fun value => (BitVec.ofInt (8 * width) (number value)).toNat

def uint8 (part : α → UInt8) : Member α := unsigned 1 fun value => (part value).toNat

def uint16 (part : α → UInt16) : Member α := unsigned 2 fun value => (part value).toNat

def uint32 (part : α → UInt32) : Member α := unsigned 4 fun value => (part value).toNat

def int16 (part : α → Int16) : Member α := signed 2 fun value => (part value).toInt

def int32 (part : α → Int32) : Member α := signed 4 fun value => (part value).toInt

/-- An array of bytes. -/
def array (n : Nat) (part : α → Bytes.Exact n) : Member α := ⟨n, 1, part⟩

/-- A structure within a structure. -/
def nested (members : List (Member β)) (part : α → β) : Member α :=
  ⟨Structure.size members, Structure.alignment members,
    fun value => Structure.pack members (part value)⟩

/-- A signed word is written as the word without sign in the same bits. -/
theorem int16_eq (part : α → Int16) :
    int16 part = unsigned 2 fun value => (part value).toUInt16.toNat := by
  refine congrArg (unsigned 2) (funext fun value => ?_)
  have bits : BitVec.ofInt 16 (part value).toInt = (part value).toBitVec := BitVec.ofInt_toInt
  exact congrArg BitVec.toNat bits

theorem int32_eq (part : α → Int32) :
    int32 part = unsigned 4 fun value => (part value).toUInt32.toNat := by
  refine congrArg (unsigned 4) (funext fun value => ?_)
  have bits : BitVec.ofInt 32 (part value).toInt = (part value).toBitVec := BitVec.ofInt_toInt
  exact congrArg BitVec.toNat bits

end Member

/-! ## Records -/

/-- The records of a type have a name and a size, lie in memory as structures with the given
members, and correspond one to one to the byte strings of their size. -/
structure Record.LiesAs (α : Type) [Record α] (name : String) (size : Nat)
    (members : List (Member α)) : Prop where
  /-- The bytes of a record are those of the structure. -/
  toBytes_eq : ∀ value : α, toBytes value = (Structure.pack members value).val
  /-- Every record takes the same number of bytes. -/
  length_toBytes : ∀ value : α, (toBytes value).length = size
  /-- Any such number of bytes are those of one record. -/
  existsUnique : ∀ data : Bytes, data.length = size → ∃! value : α, toBytes value = data
  /-- A record is read back whatever follows it. -/
  readAs_append : ∀ (what : String) (value : α) (rest : Bytes),
    layout.readAs what (toBytes value ++ rest) = .ok value
  /-- Length alone decides whether a byte string is read. -/
  exists_readAs_iff : ∀ (what : String) (data : Bytes),
    (∃ value : α, layout.readAs what data = .ok value) ↔ size ≤ data.length
  /-- What is read, written again, gives the bytes it was read from. -/
  toBytes_of_readAs : ∀ (what : String) (data : Bytes) (value : α),
    layout.readAs what data = .ok value → toBytes value = data.take size
  /-- A byte string that is too short is refused with both lengths. -/
  readAs_of_lt : ∀ (what : String) (data : Bytes), data.length < size →
    (layout : Layout α).readAs what data = .error (.truncated what size data.length)
  /-- Records are read under their own name unless another one is given. -/
  read_eq : ∀ data : Bytes, read α data = (layout : Layout α).readAs name data

namespace Layout.Lawful

variable [Record α]

theorem readAs_toBytes_append (lawful : (Record.layout : Layout α).Lawful) (what : String)
    (value : α) (rest : Bytes) :
    Record.layout.readAs what (Record.toBytes value ++ rest) = .ok value :=
  lawful.readAs_append (lawful.readAs_write what value) rest

theorem toBytes_inj (lawful : (Record.layout : Layout α).Lawful) {a b : α}
    (same : Record.toBytes a = Record.toBytes b) : a = b := by
  have first := lawful.read_toBytes a
  rw [same, lawful.read_toBytes b] at first
  exact (Except.ok.inj first).symm

theorem exists_readAs_iff (lawful : (Record.layout : Layout α).Lawful) (what : String)
    (data : Bytes) :
    (∃ value : α, Record.layout.readAs what data = .ok value) ↔ Record.size α ≤ data.length := by
  constructor
  · rintro ⟨value, read⟩
    refine Nat.le_of_not_lt fun short => ?_
    rw [lawful.readAs_of_lt what short] at read
    cases read
  · intro long
    obtain ⟨value, rest, read, -⟩ := lawful.exists_readAs_of_le what long
    exact ⟨value, read⟩

theorem toBytes_of_readAs (lawful : (Record.layout : Layout α).Lawful) {what : String}
    {data : Bytes} {value : α} (read : Record.layout.readAs what data = .ok value) :
    Record.toBytes value = data.take (Record.size α) := by
  have long := (lawful.exists_readAs_iff what data).mp ⟨value, read⟩
  obtain ⟨front, rest, again, whole⟩ := lawful.exists_readAs_of_le what long
  cases again.symm.trans read
  rw [whole]
  exact (List.take_left' (lawful.length_toBytes value)).symm

theorem existsUnique_toBytes (lawful : (Record.layout : Layout α).Lawful) {data : Bytes}
    (length : data.length = Record.size α) : ∃! value : α, Record.toBytes value = data := by
  obtain ⟨value, read⟩ :=
    (lawful.exists_readAs_iff (Record.name α) data).mpr (Nat.le_of_eq length.symm)
  have whole : Record.toBytes value = data :=
    (lawful.toBytes_of_readAs read).trans (List.take_of_length_le (Nat.le_of_eq length))
  exact ⟨value, whole, fun other same => lawful.toBytes_inj (same.trans whole.symm)⟩

/-- The law of layouts is all that is needed beside the order of the members. -/
theorem liesAs (lawful : (Record.layout : Layout α).Lawful) {members : List (Member α)}
    (toBytes_eq : ∀ value : α, Record.toBytes value = (Structure.pack members value).val) :
    Record.LiesAs α (Record.name α) (Record.size α) members where
  toBytes_eq := toBytes_eq
  length_toBytes := lawful.length_toBytes
  existsUnique _ := lawful.existsUnique_toBytes
  readAs_append := lawful.readAs_toBytes_append
  exists_readAs_iff := lawful.exists_readAs_iff
  toBytes_of_readAs _ _ _ := lawful.toBytes_of_readAs
  readAs_of_lt what _ := lawful.readAs_of_lt what
  read_eq _ := rfl

end Layout.Lawful

end TrafficShaping
