import TrafficShaping.Wire.Layout

/-!
The law of layouts: what is written is read back and nothing else is accepted.

`Layout.Lawful` is the law. Words and plain bytes have it, and a pair or a bijective image of lawful
layouts has it again, so that every record made of them does.
-/

namespace TrafficShaping.Layout

variable {α β : Type}

/-- A layout that writes every value in `size` bytes, reads it back from them whatever follows, and
reads from every byte string that is long enough the value whose bytes it begins with. -/
structure Lawful (layout : Layout α) : Prop where
  /-- Every value takes the same number of bytes. -/
  length_write : ∀ value, (layout.write value).length = layout.size
  /-- A value is read back and what follows it is left alone. -/
  read?_write : ∀ value rest, layout.read? (layout.write value ++ rest) = some (value, rest)
  /-- A value is read only from its own bytes. -/
  eq_write_of_read? : ∀ {data value rest},
    layout.read? data = some (value, rest) → data = layout.write value ++ rest
  /-- A byte string that is long enough is read. -/
  isSome_read? : ∀ {data}, layout.size ≤ data.length → (layout.read? data).isSome

/-- Reading uses up exactly the bytes of the value. -/
theorem Lawful.length_eq {layout : Layout α} (lawful : layout.Lawful) {data rest : Bytes}
    {value : α} (read : layout.read? data = some (value, rest)) :
    data.length = layout.size + rest.length := by
  rw [lawful.eq_write_of_read? read, List.length_append, lawful.length_write]

theorem lawful_bytes (n : Nat) : (bytes n).Lawful where
  length_write value := value.property
  read?_write value rest := by
    have cut := Bytes.splitExact?_append value.property rest
    simp only [bytes]
    split
    · next front rest' h =>
        cases h.symm.trans cut
        rfl
    · next h => cases h.symm.trans cut
  eq_write_of_read? {data value rest} read := by
    simp only [bytes] at read ⊢
    split at read
    · next front rest' h =>
        cases read
        exact (Bytes.splitExact?_eq_some h).2
    · cases read
  isSome_read? {data} long := by
    simp only [bytes] at long ⊢
    split
    · rfl
    · next h => exact absurd (Bytes.splitExact?_eq_none.mp h) (by omega)

theorem lawful_word {n : Nat} {ofNat : Nat → α} {toNat : α → Nat}
    (toNat_lt : ∀ value, toNat value < Bytes.bound n) (ofNat_toNat : ∀ value, ofNat (toNat value) = value)
    (toNat_ofNat : ∀ m, m < Bytes.bound n → toNat (ofNat m) = m) : (word n ofNat toNat).Lawful where
  length_write value := Bytes.length_ofNat n _
  read?_write value rest := by
    simp only [word, Bytes.splitExact?_append (Bytes.length_ofNat n _) rest, Option.map_some,
      Bytes.toNat_ofNat, Nat.mod_eq_of_lt (toNat_lt value), ofNat_toNat]
  eq_write_of_read? {data value rest} read := by
    simp only [word, Option.map_eq_some_iff] at read ⊢
    obtain ⟨⟨front, rest'⟩, cut, h⟩ := read
    cases h
    obtain ⟨width, split⟩ := Bytes.splitExact?_eq_some cut
    have small := Bytes.toNat_lt front
    rw [width] at small
    rw [toNat_ofNat _ small, ← width, Bytes.ofNat_toNat, split]
  isSome_read? {data} long := by
    simp only [word] at long ⊢
    cases h : Bytes.splitExact? n data with
    | none => exact absurd (Bytes.splitExact?_eq_none.mp h) (by omega)
    | some cut => rfl

theorem Lawful.map {layout : Layout α} (lawful : layout.Lawful) {build : α → β} {parts : β → α}
    (build_parts : ∀ value, build (parts value) = value)
    (parts_build : ∀ value, parts (build value) = value) : (layout.map build parts).Lawful where
  length_write value := lawful.length_write _
  read?_write value rest := by simp [Layout.map, lawful.read?_write, build_parts]
  eq_write_of_read? {data value rest} read := by
    simp only [Layout.map, Option.map_eq_some_iff] at read ⊢
    obtain ⟨⟨value', rest'⟩, read, h⟩ := read
    cases h
    rw [parts_build]
    exact lawful.eq_write_of_read? read
  isSome_read? {data} long := by
    simpa [Layout.map] using lawful.isSome_read? long

theorem Lawful.pair {first : Layout α} {second : Layout β} (lawful₁ : first.Lawful)
    (lawful₂ : second.Lawful) : (first.pair second).Lawful where
  length_write value := by
    simp [Layout.pair, lawful₁.length_write, lawful₂.length_write]
  read?_write value rest := by
    simp [Layout.pair, List.append_assoc, lawful₁.read?_write, lawful₂.read?_write]
  eq_write_of_read? {data value rest} read := by
    simp only [Layout.pair, Option.bind_eq_bind, Option.bind_eq_some_iff] at read ⊢
    obtain ⟨⟨a, rest₁⟩, read₁, ⟨b, rest₂⟩, read₂, h⟩ := read
    cases h
    dsimp only at read₂ ⊢
    rw [lawful₁.eq_write_of_read? read₁, lawful₂.eq_write_of_read? read₂, List.append_assoc]
  isSome_read? {data} long := by
    simp only [Layout.pair] at long ⊢
    have enough : first.size ≤ data.length := by omega
    obtain ⟨⟨a, rest₁⟩, read₁⟩ := Option.isSome_iff_exists.mp (lawful₁.isSome_read? enough)
    have left := lawful₁.length_eq read₁
    have enough : second.size ≤ rest₁.length := by omega
    obtain ⟨⟨b, rest₂⟩, read₂⟩ := Option.isSome_iff_exists.mp (lawful₂.isSome_read? enough)
    simp [read₁, read₂]

theorem lawful_uint8 : uint8.Lawful :=
  lawful_word (fun value => value.toNat_lt) (fun _ => UInt8.ofNat_toNat)
    (fun _ small => UInt8.toNat_ofNat_of_lt' small)

theorem lawful_uint16 : uint16.Lawful :=
  lawful_word (fun value => value.toNat_lt) (fun _ => UInt16.ofNat_toNat)
    (fun _ small => UInt16.toNat_ofNat_of_lt' small)

theorem lawful_uint32 : uint32.Lawful :=
  lawful_word (fun value => value.toNat_lt) (fun _ => UInt32.ofNat_toNat)
    (fun _ small => UInt32.toNat_ofNat_of_lt' small)

theorem lawful_uint64 : uint64.Lawful :=
  lawful_word (fun value => value.toNat_lt) (fun _ => UInt64.ofNat_toNat)
    (fun _ small => UInt64.toNat_ofNat_of_lt' small)

theorem lawful_int16 : int16.Lawful :=
  lawful_uint16.map (fun _ => Int16.toInt16_toUInt16 _) (fun _ => rfl)

theorem lawful_int32 : int32.Lawful :=
  lawful_uint32.map (fun _ => Int32.toInt32_toUInt32 _) (fun _ => rfl)

/-! ## Records -/

variable [Record α]

theorem Lawful.length_toBytes (lawful : (Record.layout : Layout α).Lawful) (value : α) :
    (Record.toBytes value).length = Record.size α := lawful.length_write value

theorem Lawful.readFront_toBytes (lawful : (Record.layout : Layout α).Lawful) (value : α)
    (rest : Bytes) : Record.readFront α (Record.toBytes value ++ rest) = .ok (value, rest) := by
  unfold Record.readFront readFrontAs
  rw [Record.toBytes, lawful.read?_write]

/-- What is read from the front is the record whose bytes are there. -/
theorem Lawful.eq_of_readFront (lawful : (Record.layout : Layout α).Lawful) {data rest : Bytes}
    {value : α} (read : Record.readFront α data = .ok (value, rest)) :
    data = Record.toBytes value ++ rest := by
  unfold Record.readFront readFrontAs at read
  split at read
  · next found =>
      cases read
      exact lawful.eq_write_of_read? found
  · cases read

theorem Lawful.read_toBytes_append (lawful : (Record.layout : Layout α).Lawful) (value : α)
    (rest : Bytes) : Record.read α (Record.toBytes value ++ rest) = .ok value := by
  rw [Record.read, lawful.readFront_toBytes]
  rfl

theorem Lawful.read_toBytes (lawful : (Record.layout : Layout α).Lawful) (value : α) :
    Record.read α (Record.toBytes value) = .ok value := by
  have whole := lawful.read_toBytes_append value []
  rwa [List.append_nil] at whole

/-- What a layout writes is read back under any name. -/
theorem Lawful.readAs_write {layout : Layout β} (lawful : layout.Lawful) (what : String)
    (value : β) : layout.readAs what (layout.write value) = .ok value := by
  have whole := lawful.read?_write value []
  rw [List.append_nil] at whole
  rw [readAs, readFrontAs, whole]
  rfl

end TrafficShaping.Layout
