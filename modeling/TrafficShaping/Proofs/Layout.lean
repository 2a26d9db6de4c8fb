import TrafficShaping.Outcome
import TrafficShaping.Wire.Layout.Lawful

/-!
Which byte strings a lawful layout reads.

Length alone decides: a byte string that is too short is truncated, and any other is read as the
value whose bytes it begins with.
-/

namespace TrafficShaping.Layout.Lawful

variable {α : Type} {layout : Layout α} {data : Bytes}

theorem readFrontAs_of_lt (lawful : layout.Lawful) (what : String)
    (short : data.length < layout.size) :
    layout.readFrontAs what data = .error (.truncated what layout.size data.length) := by
  unfold readFrontAs
  cases read : layout.read? data with
  | none => rfl
  | some front =>
      have length := lawful.length_eq read
      omega

theorem exists_readFrontAs_of_le (lawful : layout.Lawful) (what : String)
    (long : layout.size ≤ data.length) :
    ∃ value rest, layout.readFrontAs what data = .ok (value, rest) ∧
      data = layout.write value ++ rest := by
  obtain ⟨⟨value, rest⟩, read⟩ := Option.isSome_iff_exists.mp (lawful.isSome_read? long)
  refine ⟨value, rest, ?_, lawful.eq_write_of_read? read⟩
  unfold readFrontAs
  rw [read]

theorem readAs_of_lt (lawful : layout.Lawful) (what : String)
    (short : data.length < layout.size) :
    layout.readAs what data = .error (.truncated what layout.size data.length) := by
  rw [readAs, lawful.readFrontAs_of_lt what short]
  rfl

theorem exists_readAs_of_le (lawful : layout.Lawful) (what : String)
    (long : layout.size ≤ data.length) :
    ∃ value rest, layout.readAs what data = .ok value ∧ data = layout.write value ++ rest := by
  obtain ⟨value, rest, read, whole⟩ := lawful.exists_readFrontAs_of_le what long
  refine ⟨value, rest, ?_, whole⟩
  rw [readAs, read]
  rfl

/-- A value is read from the front, so that more bytes at the end change nothing. -/
theorem readAs_append (lawful : layout.Lawful) {what : String} {value : α}
    (read : layout.readAs what data = .ok value) (more : Bytes) :
    layout.readAs what (data ++ more) = .ok value := by
  obtain ⟨⟨value, rest⟩, front, rfl⟩ := Outcome.map_eq_ok.mp read
  unfold readFrontAs at front
  split at front
  · next found =>
      cases front
      have again := lawful.read?_write value (rest ++ more)
      rw [← List.append_assoc, ← lawful.eq_write_of_read? found] at again
      rw [readAs, readFrontAs, again]
      rfl
  · cases front

end TrafficShaping.Layout.Lawful
