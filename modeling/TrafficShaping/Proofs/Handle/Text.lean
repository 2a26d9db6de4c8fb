import TrafficShaping.Proofs.Handle
import TrafficShaping.Proofs.Text.Hexadecimal

/-!
Handles are read back from their text.

The text of a handle is the name of a place or has two numerals around a colon. A name is read as
the place (`Handle.parse_of_mem_names`), and a text with a colon is no name
(`Handle.lookup_names_of_colon`), so that its parts are read
(`Handle.parseParts?_join`).
-/

namespace TrafficShaping.Handle

open Text

/-! ## Names -/

theorem parse_of_mem_names {name : String} {handle : Handle} (named : (name, handle) ∈ names) :
    parse name = .ok handle := by
  have each : ∀ entry ∈ names, names.lookup entry.1 = some entry.2 := by decide
  rw [parse, each _ named]

theorem lookup_names_of_colon {text : String} (colon : ':' ∈ text.toList) :
    names.lookup text = Option.none := by
  have each : ∀ entry ∈ names, ':' ∉ entry.1.toList := by decide
  refine List.lookup_eq_none_iff.mpr fun entry among => bne_iff_ne.mpr ?_
  rintro rfl
  exact each entry among colon

/-! ## Numbers -/

/-- The numeral behind the colon, which there is none of for a minor number of zero. -/
def minorText (minor : UInt16) : List Char :=
  if minor = 0 then [] else Hexadecimal.write minor.toNat

theorem parseParts?_of_read {first second : List Char} {major minor : Nat}
    (unbroken : ':' ∉ first) (readMajor : Hexadecimal.read UInt16.size first = .ok major)
    (readMinor : second = [] ∧ minor = 0 ∨
      second ≠ [] ∧ Hexadecimal.read UInt16.size second = .ok minor) :
    parseParts? (first ++ ':' :: second) =
      some (ofParts (UInt16.ofNat major) (UInt16.ofNat minor)) := by
  have before : ∀ c ∈ first, (c != ':') = true := by
    intro c among
    refine bne_iff_ne.mpr ?_
    rintro rfl
    exact unbroken among
  have front : (first ++ ':' :: second).takeWhile (· != ':') = first := by
    rw [List.takeWhile_append_of_pos before, List.takeWhile_cons_of_neg (by decide),
      List.append_nil]
  have behind : (first ++ ':' :: second).dropWhile (· != ':') = ':' :: second := by
    rw [List.dropWhile_append_of_pos before]
    rfl
  unfold parseParts?
  rw [behind, front, readMajor]
  rcases readMinor with ⟨rfl, rfl⟩ | ⟨there, readMinor⟩
  · rfl
  · have nonempty : ¬ second.isEmpty = true := fun empty => there (List.isEmpty_iff.mp empty)
    refine (if_neg nonempty).trans ?_
    rw [readMinor]
    rfl

theorem parseParts?_join (major minor : UInt16) :
    parseParts? (Hexadecimal.write major.toNat ++ ':' :: minorText minor) =
      some (ofParts major minor) := by
  have readMinor : minorText minor = [] ∧ minor.toNat = 0 ∨ minorText minor ≠ [] ∧
      Hexadecimal.read UInt16.size (minorText minor) = .ok minor.toNat := by
    unfold minorText
    by_cases zero : minor = 0
    · exact .inl ⟨if_pos zero, congrArg UInt16.toNat zero⟩
    · rw [if_neg zero]
      exact .inr ⟨Hexadecimal.write_ne_nil _, Hexadecimal.read_write minor.toNat_lt⟩
  rw [parseParts?_of_read (Hexadecimal.notMem_write rfl _)
      (Hexadecimal.read_write major.toNat_lt) readMinor,
    UInt16.ofNat_toNat, UInt16.ofNat_toNat]

/-! ## Handles -/

theorem parse_text (handle : Handle) : parse handle.text = .ok handle := by
  unfold text
  split
  · next name place found =>
      have same := List.find?_some found
      rw [← eq_of_beq same]
      exact parse_of_mem_names (List.mem_of_find?_eq_some found)
  · -- What is not a place is written with a colon, and no name has one.
    change parse (String.ofList
      (Hexadecimal.write handle.major.toNat ++ ':' :: minorText handle.minor)) = _
    have colon : ':' ∈ (String.ofList
        (Hexadecimal.write handle.major.toNat ++ ':' :: minorText handle.minor)).toList := by
      rw [String.toList_ofList]
      exact List.mem_append_right _ List.mem_cons_self
    rw [parse, lookup_names_of_colon colon, String.toList_ofList, parseParts?_join,
      ofParts_major_minor]

/-- Every handle is read back from its text, so that no two have the same. Whatever text a handle
was read from, it is read from its own text as well. -/
theorem parse_text_and_text_injective :
    (∀ handle, parse handle.text = .ok handle) ∧ Function.Injective text ∧
      ∀ written handle, parse written = .ok handle → parse handle.text = .ok handle := by
  refine ⟨parse_text, ?_, fun _ handle _ => parse_text handle⟩
  intro a b same
  have back := parse_text a
  rw [same, parse_text b] at back
  exact (Except.ok.inj back).symm

theorem parse_text_and_text_injective_signed :
    parse "+00A:0" = .ok ⟨0xA0000⟩ ∧ parse (text ⟨0xA0000⟩) = .ok ⟨0xA0000⟩ := by
  have parsed : parse "+00A:0" = .ok ⟨0xA0000⟩ := rfl
  exact ⟨parsed, parse_text_and_text_injective.2.2 _ _ parsed⟩

end TrafficShaping.Handle
