import Mathlib.Data.List.Basic
import TrafficShaping.Proofs.Attribute.Grammar
import TrafficShaping.Proofs.Attribute.Leaves

/-!
Sequences of records and the bytes that fill them up.

Strict reading passes over the filling of a record and over the flags of its tag. A `Tagged.Chunk`
keeps both, so that a byte string that is read is nothing but its chunks one after the other
(`Tagged.exists_laid_of_spells`). What is found of chunks can always be written, and takes as many
bytes as the chunks do once the last filling is complete (`Tagged.Chunk.Laid.length_toBytes`). If no
tag has a flag it is written as the same chunks filled with zeros
(`Tagged.Chunk.Laid.toBytes_eq`).
-/

namespace TrafficShaping.Tagged

/-- A record as it lies in a byte string, with the bytes that fill it up. -/
structure Chunk where
  header : AttributeHeader
  payload : Bytes
  filling : Bytes

namespace Chunk

/-- The bytes of a record, filling included. -/
def bytes (chunk : Chunk) : Bytes :=
  Record.toBytes chunk.header ++ (chunk.payload ++ chunk.filling)

/-- What is found of a record. -/
def found (chunk : Chunk) : Tagged := ⟨chunk.header.tag, chunk.payload⟩

/-- The record with all of its filling, which is zero. -/
def zeroed (chunk : Chunk) : Chunk :=
  { chunk with filling := Bytes.zeros (fillLength chunk.payload) }

/-- Whether the type of a record is a tag without flags. -/
def IsPlain (chunk : Chunk) : Prop := AttributeHeader.tagOf chunk.header.type = chunk.header.type

/-- The bytes of records, one after the other. -/
def join (chunks : List Chunk) : Bytes := chunks.flatMap bytes

/-- Records whose headers tell their lengths and whose fillings are whole, but for the last one, of
which a part or all may be missing. -/
inductive Laid : List Chunk → Prop
  | nil : Laid []
  | last {chunk : Chunk} (length : chunk.header.length.toNat = 4 + chunk.payload.length)
      (cut : chunk.filling.length ≤ fillLength chunk.payload) : Laid [chunk]
  | cons {chunk : Chunk} {rest : List Chunk}
      (length : chunk.header.length.toNat = 4 + chunk.payload.length)
      (filled : chunk.filling.length = fillLength chunk.payload) (later : Laid rest) :
      Laid (chunk :: rest)

variable {chunk : Chunk} {chunks : List Chunk}

theorem join_singleton (chunk : Chunk) : join [chunk] = chunk.bytes := List.flatMap_singleton _ _

theorem join_cons (first : Chunk) (rest : List Chunk) :
    join (first :: rest) =
      Record.toBytes first.header ++ (first.payload ++ (first.filling ++ join rest)) := by
  simp only [join, List.flatMap_cons, bytes, List.append_assoc]

theorem length_bytes (chunk : Chunk) :
    chunk.bytes.length = 4 + (chunk.payload.length + chunk.filling.length) := by
  rw [bytes, List.length_append, List.length_append, AttributeHeader.length_toBytes]

theorem Laid.length_eq (laid : Laid chunks) :
    ∀ chunk ∈ chunks, chunk.header.length.toNat = 4 + chunk.payload.length := by
  induction laid with
  | nil => exact List.forall_mem_nil _
  | last length _ => exact List.forall_mem_singleton.mpr length
  | cons length _ _ ih => exact List.forall_mem_cons.mpr ⟨length, ih⟩

/-! ## Reading -/

theorem Laid.spells (laid : Laid chunks) : Spells (join chunks) (chunks.map found) := by
  induction laid with
  | nil => exact .nil
  | last length cut =>
      rw [join_singleton]
      exact .last length cut
  | cons length filled _ ih =>
      rw [join_cons]
      exact .cons length filled ih

/-- A sequence of records is one of chunks, which keep the filling and the flags as well. -/
theorem exists_laid_of_spells {data : Bytes} {records : List Tagged}
    (spells : Spells data records) :
    ∃ chunks, Laid chunks ∧ data = join chunks ∧ records = chunks.map found := by
  induction spells with
  | nil => exact ⟨[], .nil, rfl, rfl⟩
  | @last header payload filling length cut =>
      let chunk : Chunk := ⟨header, payload, filling⟩
      exact ⟨[chunk], .last length cut, (join_singleton chunk).symm, rfl⟩
  | @cons header payload filling rest records length filled _ ih =>
      obtain ⟨chunks, laid, rfl, rfl⟩ := ih
      let chunk : Chunk := ⟨header, payload, filling⟩
      exact ⟨chunk :: chunks, .cons length filled laid, (join_cons chunk chunks).symm, rfl⟩

/-! ## Writing -/

/-- What is found of a record can be written: a header counted its payload before. -/
theorem isWritable_found (length : chunk.header.length.toNat = 4 + chunk.payload.length) :
    chunk.found.IsWritable where
  tag_eq := by
    change chunk.header.type &&& 0x3FFF &&& 0x3FFF = chunk.header.type &&& 0x3FFF
    rw [UInt16.and_assoc, UInt16.and_self]
  fits := by
    have word := chunk.header.length.toNat_lt
    have limit : maxAttributePayload = 65531 := rfl
    change chunk.payload.length ≤ _
    omega

/-- What is written is as long as the byte string is with the last filling completed. -/
theorem Laid.length_toBytes (laid : Laid chunks) :
    ((chunks.map found).flatMap toBytes).length = Bytes.align (join chunks).length := by
  induction laid with
  | nil => rfl
  | @last chunk length cut =>
      -- Whatever is missing of the filling, the length rounds up to that with all of it.
      change (Attribute.record _ chunk.payload ++ []).length = _
      unfold fillLength Bytes.align at cut
      rw [List.append_nil, Attribute.length_record, join_singleton, length_bytes]
      unfold Bytes.align
      omega
  | @cons chunk rest length filled later ih =>
      -- A whole filling ends on a multiple of four, from which the rest is counted anew.
      have grid := Bytes.le_align (4 + chunk.payload.length)
      have multiple := Bytes.align_mod_four (4 + chunk.payload.length)
      have whole : chunk.bytes.length = Bytes.align (4 + chunk.payload.length) := by
        rw [length_bytes, filled, fillLength]
        omega
      change (Attribute.record _ chunk.payload ++ (rest.map found).flatMap toBytes).length =
        Bytes.align (chunk.bytes ++ join rest).length
      rw [List.length_append, List.length_append, ih, Attribute.length_record, whole,
        Bytes.align_add multiple]

/-- A record without flags is written with its own header, and with zeros behind it. -/
theorem toBytes_found (length : chunk.header.length.toNat = 4 + chunk.payload.length)
    (plain : chunk.IsPlain) : chunk.found.toBytes = chunk.zeroed.bytes := by
  have header : (⟨UInt16.ofNat (4 + chunk.payload.length), chunk.header.tag⟩ : AttributeHeader) =
      chunk.header := by
    rw [← length, UInt16.ofNat_toNat]
    exact congrArg (AttributeHeader.mk chunk.header.length) plain
  change Bytes.padded (Record.toBytes
    (⟨UInt16.ofNat (4 + chunk.payload.length), chunk.header.tag⟩ : AttributeHeader) ++
      chunk.payload) = _
  rw [header, Bytes.padded, List.length_append, AttributeHeader.length_toBytes, List.append_assoc]
  rfl

theorem Laid.toBytes_eq (laid : Laid chunks) (plain : ∀ chunk ∈ chunks, chunk.IsPlain) :
    (chunks.map found).flatMap toBytes = join (chunks.map zeroed) := by
  rw [join, List.flatMap_map, List.flatMap_map]
  exact List.flatMap_congr fun chunk among =>
    toBytes_found (laid.length_eq chunk among) (plain chunk among)

/-- Zeros in place of the fillings change nothing exactly where they stand already. -/
theorem Laid.join_zeroed_eq_iff (laid : Laid chunks) :
    join (chunks.map zeroed) = join chunks ↔
      ∀ chunk ∈ chunks, chunk.filling = Bytes.zeros (fillLength chunk.payload) := by
  induction laid with
  | nil => exact iff_of_true rfl (List.forall_mem_nil _)
  | @last chunk length cut =>
      rw [List.map_singleton, join_singleton, join_singleton, List.forall_mem_singleton]
      change Record.toBytes chunk.header ++ (chunk.payload ++ _) = _ ↔ _
      rw [bytes, List.append_right_inj, List.append_right_inj]
      exact eq_comm
  | @cons chunk rest length filled later ih =>
      rw [List.map_cons, join_cons, join_cons, List.forall_mem_cons, ← ih]
      change Record.toBytes chunk.header ++ (chunk.payload ++ (_ ++ _)) = _ ↔ _
      rw [List.append_right_inj, List.append_right_inj]
      constructor
      · intro same
        -- Both fillings are whole, so that the bytes behind them begin at the same place.
        have lengths : chunk.zeroed.filling.length = chunk.filling.length := by
          rw [filled]
          exact Bytes.length_zeros _
        obtain ⟨here, there⟩ := List.append_inj same lengths
        exact ⟨here.symm, there⟩
      · rintro ⟨here, there⟩
        rw [there, here]
        rfl

end Chunk

open Chunk

/-- Strict reading accepts exactly what chunks make up. What it finds can be written, as long as
before but for a last filling that was not complete, and is found again. If no tag has a flag it is
written as the same bytes with zeros for the filling, and these are the byte string itself exactly
when its filling was whole and zero. -/
theorem laid_and_written_again (data : Bytes) :
    (∀ records, parse data = .ok records ↔
      ∃ chunks, Laid chunks ∧ data = join chunks ∧ records = chunks.map found) ∧
    ∀ chunks, Laid chunks → data = join chunks →
      ∃ written, Attribute.writeAll ((chunks.map found).map toLeaf) = .ok written ∧
        written.length = Bytes.align data.length ∧
        parse written = .ok (chunks.map found) ∧
        ((∀ chunk ∈ chunks, chunk.IsPlain) →
          written = join (chunks.map zeroed) ∧
          (written = data ↔
            ∀ chunk ∈ chunks, chunk.filling = Bytes.zeros (fillLength chunk.payload))) := by
  refine ⟨fun records => ?_, ?_⟩
  · rw [parse_eq_ok_iff]
    constructor
    · exact exists_laid_of_spells
    · rintro ⟨chunks, laid, rfl, rfl⟩
      exact laid.spells
  · rintro chunks laid rfl
    have writable : ∀ record ∈ chunks.map found, record.IsWritable := by
      intro record among
      obtain ⟨chunk, there, rfl⟩ := List.mem_map.mp among
      exact isWritable_found (laid.length_eq chunk there)
    refine ⟨_, writeAll_toLeaf writable, laid.length_toBytes,
      parseFrom_flatMap_toBytes writable 0, fun plain => ?_⟩
    rw [laid.toBytes_eq plain]
    exact ⟨rfl, laid.join_zeroed_eq_iff⟩

/-- A record of one byte, filled with sevens, and one of two bytes that lacks a byte of filling. -/
def strayFilling : List Chunk := [⟨⟨5, 1⟩, [9], [7, 7, 7]⟩, ⟨⟨6, 2⟩, [1, 2], [3]⟩]

theorem laid_and_written_again_strayFilling :
    Laid strayFilling ∧ (∀ chunk ∈ strayFilling, chunk.IsPlain) ∧
      join strayFilling = [5, 0, 1, 0, 9, 7, 7, 7, 6, 0, 2, 0, 1, 2, 3] ∧
      ∃ written, Attribute.writeAll [.leaf 1 [9], .leaf 2 [1, 2]] = .ok written ∧
        written = [5, 0, 1, 0, 9, 0, 0, 0, 6, 0, 2, 0, 1, 2, 0, 0] ∧
        parse written = .ok [⟨1, [9]⟩, ⟨2, [1, 2]⟩] := by
  have laid : Laid strayFilling := .cons rfl rfl (.last rfl (by decide))
  have plain : ∀ chunk ∈ strayFilling, chunk.IsPlain :=
    List.forall_mem_cons.mpr ⟨rfl, List.forall_mem_singleton.mpr rfl⟩
  obtain ⟨written, done, _, parsed, same⟩ :=
    (laid_and_written_again (join strayFilling)).2 strayFilling laid rfl
  exact ⟨laid, plain, rfl, written, done, (same plain).1, parsed⟩

end TrafficShaping.Tagged
