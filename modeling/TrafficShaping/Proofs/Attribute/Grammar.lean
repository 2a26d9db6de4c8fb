import TrafficShaping.Proofs.Attribute.Reading

/-!
The byte strings that are sequences of attributes.

`Tagged.Filled` and `Tagged.Spells` say which byte strings these are without reading them: records
one after the other, each filled up to a multiple of four with bytes of any value, where in a
`Spells` the filling of the last record may be cut off. `Tagged.Malformed` bytes are those that no
record starts. Strict and lenient reading step through a byte string in the same way:

* `Tagged.take?_eq_some_iff` and `Tagged.take?_eq_none_iff` say what one step finds;
* `Tagged.spells_or_malformed` leaves two kinds of byte strings, of which strict reading accepts the
  first (`Tagged.Spells.parseFrom`) and reports the offset of the first malformed record in the
  second (`Tagged.Filled.parseFrom`);
* lenient reading, one call after the other, yields the records that are whole in either kind, and
  nothing from then on (`Tagged.call_eq_getElem?_scan`).
-/

namespace TrafficShaping.Tagged

/-! ## Sequences of records -/

/-- The number of bytes behind a payload up to the next multiple of four. -/
def fillLength (payload : Bytes) : Nat := Bytes.align (4 + payload.length) - (4 + payload.length)

/-- Records one after the other, all of them with their filling. -/
inductive Filled : Bytes → List Tagged → Prop
  | nil : Filled [] []
  | cons {header : AttributeHeader} {payload filling rest : Bytes} {found : List Tagged}
      (length : header.length.toNat = 4 + payload.length)
      (filled : filling.length = fillLength payload) (later : Filled rest found) :
      Filled (Record.toBytes header ++ (payload ++ (filling ++ rest)))
        (⟨header.tag, payload⟩ :: found)

/-- Records one after the other, of which the last may lack a part of its filling or all of it. -/
inductive Spells : Bytes → List Tagged → Prop
  | nil : Spells [] []
  | last {header : AttributeHeader} {payload filling : Bytes}
      (length : header.length.toNat = 4 + payload.length)
      (cut : filling.length ≤ fillLength payload) :
      Spells (Record.toBytes header ++ (payload ++ filling)) [⟨header.tag, payload⟩]
  | cons {header : AttributeHeader} {payload filling rest : Bytes} {found : List Tagged}
      (length : header.length.toNat = 4 + payload.length)
      (filled : filling.length = fillLength payload) (later : Spells rest found) :
      Spells (Record.toBytes header ++ (payload ++ (filling ++ rest)))
        (⟨header.tag, payload⟩ :: found)

/-- Bytes that no record starts: there is no whole header, or its length does not cover the header
itself, or it covers more than there is. -/
inductive Malformed : Bytes → Prop
  | header {data : Bytes} (nonempty : data ≠ []) (short : data.length < 4) : Malformed data
  | length {header : AttributeHeader} {rest : Bytes}
      (wrong : header.length.toNat < 4 ∨ 4 + rest.length < header.length.toNat) :
      Malformed (Record.toBytes header ++ rest)

/-- The fault of bytes that no record starts. -/
def faultAt (offset : Nat) (tail : Bytes) : WireFault :=
  if tail.length < 4 then .attributeHeader offset tail.length else .malformedAttribute offset

theorem Malformed.ne_nil {data : Bytes} (malformed : Malformed data) : data ≠ [] := by
  cases malformed with
  | header nonempty _ => exact nonempty
  | @length header rest _ =>
      intro empty
      have size := congrArg List.length empty
      rw [List.length_append, AttributeHeader.length_toBytes, List.length_nil] at size
      omega

/-! ## One step -/

section Step

variable {header : AttributeHeader} {payload filling : Bytes}

theorem take?_of_filled (length : header.length.toNat = 4 + payload.length)
    (filled : filling.length = fillLength payload) (rest : Bytes) :
    take? (Record.toBytes header ++ (payload ++ (filling ++ rest))) =
      some (⟨header.tag, payload⟩, rest) := by
  have taken := take?_of_header header length (filling ++ rest)
  change _ = some (_, (filling ++ rest).drop (fillLength payload)) at taken
  rw [taken, List.drop_left' filled]

theorem take?_of_cut (length : header.length.toNat = 4 + payload.length)
    (cut : filling.length ≤ fillLength payload) :
    take? (Record.toBytes header ++ (payload ++ filling)) = some (⟨header.tag, payload⟩, []) := by
  have taken := take?_of_header header length filling
  change _ = some (_, filling.drop (fillLength payload)) at taken
  rw [taken, List.drop_eq_nil_of_le cut]

/-- A record is found exactly where its bytes are, and all of its filling is passed over. There is
less of it only at the end. -/
theorem take?_eq_some_iff {data rest : Bytes} {found : Tagged} :
    take? data = some (found, rest) ↔
      ∃ (header : AttributeHeader) (payload filling : Bytes),
        data = Record.toBytes header ++ (payload ++ (filling ++ rest)) ∧
        header.length.toNat = 4 + payload.length ∧ found = ⟨header.tag, payload⟩ ∧
        (filling.length = fillLength payload ∨
          filling.length < fillLength payload ∧ rest = []) := by
  constructor
  · intro taken
    simp only [take?, Option.bind_eq_bind, Option.bind_eq_some_iff] at taken
    obtain ⟨⟨header, body⟩, headed, taken⟩ := taken
    dsimp only at taken
    split at taken
    · cases taken
    next covered =>
      obtain ⟨⟨payload, later⟩, cut, h⟩ := Option.bind_eq_some_iff.mp taken
      obtain ⟨width, rfl⟩ := Bytes.splitExact?_eq_some cut
      have length : header.length.toNat = 4 + payload.length := by
        unfold AttributeHeader.payloadLength at width
        omega
      have fill : Bytes.align header.length.toNat - header.length.toNat = fillLength payload := by
        rw [length, fillLength]
      cases h
      rw [fill]
      refine ⟨header, payload, later.take (fillLength payload), ?_, length, rfl, ?_⟩
      · rw [List.take_append_drop]
        exact AttributeHeader.lawful_layout.eq_write_of_read? headed
      · rcases Nat.lt_or_ge later.length (fillLength payload) with short | enough
        · exact .inr ⟨by rw [List.length_take]; omega, List.drop_eq_nil_of_le (Nat.le_of_lt short)⟩
        · exact .inl (by rw [List.length_take]; omega)
  · rintro ⟨header, payload, filling, rfl, length, rfl, filled | ⟨short, rfl⟩⟩
    · exact take?_of_filled length filled rest
    · rw [List.append_nil]
      exact take?_of_cut length (Nat.le_of_lt short)

/-- No record is found exactly at the end and in malformed bytes. -/
theorem take?_eq_none_iff {data : Bytes} : take? data = none ↔ data = [] ∨ Malformed data := by
  constructor
  · intro missing
    rcases Nat.lt_or_ge data.length 4 with short | enough
    · by_cases empty : data = []
      · exact .inl empty
      · exact .inr (.header empty short)
    · obtain ⟨⟨header, rest⟩, headed⟩ :=
        Option.isSome_iff_exists.mp (AttributeHeader.lawful_layout.isSome_read? enough)
      obtain rfl := AttributeHeader.lawful_layout.eq_write_of_read? headed
      refine .inr (.length (Classical.byContradiction fun right => ?_))
      obtain ⟨covered, fits⟩ := not_or.mp right
      have length : header.length.toNat = 4 + (rest.take (header.length.toNat - 4)).length := by
        rw [List.length_take]
        omega
      have taken := take?_of_header header length (rest.drop (header.length.toNat - 4))
      rw [List.take_append_drop] at taken
      cases missing.symm.trans taken
  · rintro (rfl | malformed)
    · exact take?_nil
    · cases taken : take? data with
      | none => rfl
      | some front =>
          obtain ⟨found, rest⟩ := front
          obtain ⟨header, payload, filling, same, length, _, _⟩ := take?_eq_some_iff.mp taken
          have size := congrArg List.length same
          simp only [List.length_append, AttributeHeader.length_toBytes] at size
          cases malformed with
          | header _ short => omega
          | @length other tail wrong =>
              have fronts := List.append_inj_left same (by simp)
              have read := AttributeHeader.lawful_layout.read_toBytes other
              rw [fronts, AttributeHeader.lawful_layout.read_toBytes] at read
              obtain rfl := Except.ok.inj read
              simp only [List.length_append, AttributeHeader.length_toBytes] at size
              omega

end Step

/-! ## Strict reading -/

theorem parseFrom_of_malformed {data : Bytes} (malformed : Malformed data) (offset : Nat) :
    parseFrom offset data = .error (.wireFormat (faultAt offset data)) := by
  have nonempty : ¬ data.isEmpty = true := fun empty =>
    malformed.ne_nil (List.isEmpty_iff.mp empty)
  have missing : take? data = none := take?_eq_none_iff.mpr (.inr malformed)
  rw [Tagged.parseFrom, if_neg nonempty]
  split
  · next found rest taken => cases missing.symm.trans taken
  · rw [faultAt]
    split <;> rfl

theorem Spells.parseFrom {data : Bytes} {found : List Tagged} (spells : Spells data found) :
    ∀ offset, Tagged.parseFrom offset data = .ok found := by
  induction spells with
  | nil => exact parseFrom_nil
  | last length cut =>
      intro offset
      rw [parseFrom_of_take? (take?_of_cut length cut), parseFrom_nil]
      rfl
  | cons length filled _ ih =>
      intro offset
      rw [parseFrom_of_take? (take?_of_filled length filled _), ih]
      rfl

/-- Strict reading gets past records with their filling and stops at the first malformed one, whose
offset it reports. -/
theorem Filled.parseFrom {front tail : Bytes} {found : List Tagged} (filled : Filled front found)
    (malformed : Malformed tail) :
    ∀ offset, Tagged.parseFrom offset (front ++ tail) =
      .error (.wireFormat (faultAt (offset + front.length) tail)) := by
  induction filled with
  | nil => exact parseFrom_of_malformed malformed
  | @cons header payload filling rest found length filled _ ih =>
      intro offset
      have taken := take?_of_filled length filled (rest ++ tail)
      have past : offset + Bytes.align (4 + payload.length) + rest.length =
          offset + (Record.toBytes header ++ (payload ++ (filling ++ rest))).length := by
        have grid := Bytes.le_align (4 + payload.length)
        simp only [List.length_append, AttributeHeader.length_toBytes, filled, fillLength]
        omega
      simp only [List.append_assoc]
      rw [parseFrom_of_take? taken, ih, past]
      rfl

/-! ## Lenient reading -/

/-- One call of lenient reading: the next attribute, and the bytes that are left for later calls.
There are none left after a record that is malformed. -/
def next (data : Bytes) : Option Tagged × Bytes :=
  match take? data with
  | some (found, rest) => (some found, rest)
  | none => (none, [])

/-- What a call of lenient reading yields, where calls are counted from zero. -/
def call : Nat → Bytes → Option Tagged
  | 0, data => (next data).1
  | n + 1, data => call n (next data).2

theorem call_nil (n : Nat) : call n [] = none := by
  induction n with
  | zero => rfl
  | succ n ih => exact ih

/-- The calls yield the attributes of lenient reading one by one, and nothing from then on. -/
theorem call_eq_getElem?_scan (n : Nat) (data : Bytes) : call n data = (scan data)[n]? := by
  induction n generalizing data with
  | zero =>
      rw [call, next, scan]
      split <;> rename_i taken <;> rw [taken] <;> rfl
  | succ n ih =>
      rw [call, next, scan]
      split <;> rename_i taken <;> rw [taken]
      · exact ih _
      · exact call_nil n

theorem scan_of_take? {data rest : Bytes} {found : Tagged}
    (taken : take? data = some (found, rest)) : scan data = found :: scan rest := by
  rw [scan]
  split
  · next other later found' =>
      cases taken.symm.trans found'
      rfl
  · next missing => cases taken.symm.trans missing

theorem scan_of_take?_eq_none {data : Bytes} (missing : take? data = none) : scan data = [] := by
  rw [scan]
  split
  · next found rest taken => cases missing.symm.trans taken
  · rfl

theorem Spells.scan {data : Bytes} {found : List Tagged} (spells : Spells data found) :
    Tagged.scan data = found := by
  induction spells with
  | nil => exact scan_of_take?_eq_none take?_nil
  | last length cut =>
      rw [scan_of_take? (take?_of_cut length cut), scan_of_take?_eq_none take?_nil]
  | cons length filled _ ih => rw [scan_of_take? (take?_of_filled length filled _), ih]

theorem Filled.scan {front tail : Bytes} {found : List Tagged} (filled : Filled front found)
    (malformed : Malformed tail) : Tagged.scan (front ++ tail) = found := by
  induction filled with
  | nil => exact scan_of_take?_eq_none (take?_eq_none_iff.mpr (.inr malformed))
  | @cons header payload filling rest found length filled _ ih =>
      have taken := take?_of_filled length filled (rest ++ tail)
      simp only [List.append_assoc]
      rw [scan_of_take? taken, ih]

/-! ## All byte strings -/

/-- A byte string is a sequence of records or has a first malformed one, which starts behind records
with their filling. -/
theorem spells_or_malformed (data : Bytes) :
    (∃ found, Spells data found) ∨
      ∃ front tail found, data = front ++ tail ∧ Filled front found ∧ Malformed tail := by
  fun_induction Tagged.scan data with
  | case1 data found rest taken ih =>
      obtain ⟨header, payload, filling, rfl, length, rfl, filled | ⟨short, rfl⟩⟩ :=
        take?_eq_some_iff.mp taken
      · rcases ih with ⟨later, spells⟩ | ⟨front, tail, later, rfl, whole, malformed⟩
        · exact .inl ⟨_, .cons length filled spells⟩
        · refine .inr ⟨_, tail, _, ?_, .cons length filled whole, malformed⟩
          simp only [List.append_assoc]
      · rw [List.append_nil]
        exact .inl ⟨_, .last length (Nat.le_of_lt short)⟩
  | case2 data missing =>
      rcases take?_eq_none_iff.mp missing with rfl | malformed
      · exact .inl ⟨[], .nil⟩
      · exact .inr ⟨[], data, [], rfl, .nil, malformed⟩

theorem parse_eq_ok_iff {data : Bytes} {found : List Tagged} :
    parse data = .ok found ↔ Spells data found := by
  constructor
  · intro parsed
    rcases spells_or_malformed data with ⟨other, spells⟩ | ⟨front, tail, _, rfl, filled, malformed⟩
    · cases parsed.symm.trans (spells.parseFrom 0)
      exact spells
    · cases parsed.symm.trans (filled.parseFrom malformed 0)
  · intro spells
    exact spells.parseFrom 0

/-- Strict reading accepts exactly the sequences of records, and finds what they spell. Lenient
reading yields the same, call by call, and nothing from then on. Any other byte string has a first
malformed record: strict reading reports its offset, and lenient reading yields just the records
before it. -/
theorem parse_iff_spells_and_calls (data : Bytes) :
    (∀ found, parse data = .ok found ↔ Spells data found) ∧
    (∀ found, Spells data found → ∀ n, call n data = found[n]?) ∧
    ((∀ found, ¬ Spells data found) →
      ∃ front tail found, data = front ++ tail ∧ Filled front found ∧ Malformed tail ∧
        parse data = .error (.wireFormat (faultAt front.length tail)) ∧
        ∀ n, call n data = found[n]?) := by
  refine ⟨fun found => parse_eq_ok_iff, ?_, ?_⟩
  · intro found spells n
    rw [call_eq_getElem?_scan, spells.scan]
  · intro unspelt
    rcases spells_or_malformed data with ⟨found, spells⟩ | ⟨front, tail, found, rfl, filled, bad⟩
    · exact absurd spells (unspelt found)
    · refine ⟨front, tail, found, rfl, filled, bad, ?_, fun n => ?_⟩
      · have refused := filled.parseFrom bad 0
        rwa [Nat.zero_add] at refused
      · rw [call_eq_getElem?_scan, filled.scan bad]

/-- A record of four bytes, and three bytes of the header of another one. -/
def cutHeader : Bytes := [8, 0, 1, 0, 1, 2, 3, 4, 5, 0, 2]

theorem parse_iff_spells_and_calls_cutHeader :
    (∀ found, ¬ Spells cutHeader found) ∧
      ∃ front tail found, cutHeader = front ++ tail ∧ Filled front found ∧ Malformed tail ∧
        parse cutHeader = .error (.wireFormat (faultAt front.length tail)) ∧
        ∀ n, call n cutHeader = found[n]? := by
  have filled : Filled [8, 0, 1, 0, 1, 2, 3, 4] [⟨1, [1, 2, 3, 4]⟩] :=
    @Filled.cons ⟨8, 1⟩ [1, 2, 3, 4] [] [] [] rfl rfl .nil
  have malformed : Malformed [5, 0, 2] := .header (by decide) (by decide)
  have unspelt : ∀ found, ¬ Spells cutHeader found := by
    intro found spells
    have refused := filled.parseFrom malformed 0
    cases refused.symm.trans (spells.parseFrom 0)
  exact ⟨unspelt, (parse_iff_spells_and_calls cutHeader).2.2 unspelt⟩

end TrafficShaping.Tagged
