import TrafficShaping.Proofs.Handle.Text
import TrafficShaping.Proofs.Text.Numeral

/-!
Which texts are handles.

A handle is spelled by the name of a place, or by the numerals of its numbers around a colon, where
the second may be missing (`Handle.Spelled`). Exactly these texts are read, each as the handle that
it spells, and of any other text the error says that it is none
(`Handle.parse_eq_ok_iff_and_parse_eq_error_iff`). A numeral holds no colon, so the first colon of
a text is the only one that can part two numerals (`Handle.parseParts?_eq_some_iff`).
-/

namespace TrafficShaping.Handle

open Text

/-! ## The grammar -/

/-- The numeral of a number that fits one half of a handle. -/
def Half (text : List Char) (n : Nat) : Prop := Hexadecimal.Numeral text n ∧ n ≤ 0xFFFF

/-- What may stand behind the colon: a numeral, or nothing, which counts zero. -/
inductive Behind : List Char → Nat → Prop
  | missing : Behind [] 0
  | given {text : List Char} {n : Nat} (half : Half text n) : Behind text n

/-- The texts that stand for a handle. -/
inductive Spelled : String → Handle → Prop
  | root : Spelled "root" root
  | ingress : Spelled "ingress" ingress
  | clsact : Spelled "clsact" clsact
  | none : Spelled "none" none
  | numbers {first second : List Char} {major minor : Nat} {handle : Handle}
      (upper : Half first major) (lower : Behind second minor)
      (value : handle.raw.toNat = major * 65536 + minor) :
      Spelled (String.ofList (first ++ ':' :: second)) handle

variable {text : String} {chars first second : List Char} {handle : Handle} {major minor n : Nat}

/-! ## Numbers -/

theorem half_iff : Half chars n ↔ Hexadecimal.read UInt16.size chars = .ok n := by
  rw [Hexadecimal.read_eq_ok_iff]
  exact and_congr_right' Nat.lt_succ_iff.symm

theorem half_of_toOption
    (known : (Hexadecimal.read UInt16.size chars).toOption = some n) : Half chars n := by
  refine half_iff.mpr ?_
  cases outcome : Hexadecimal.read UInt16.size chars with
  | error fault =>
      rw [outcome] at known
      cases known
  | ok value =>
      rw [outcome] at known
      exact congrArg Except.ok (Option.some.inj known)

theorem Half.colon_notMem (half : Half chars n) : ':' ∉ chars := half.1.notMem rfl (by decide)

theorem Behind.le (lower : Behind second minor) : minor ≤ 0xFFFF := by
  cases lower with
  | missing => exact Nat.zero_le _
  | given half => exact half.2

theorem ofParts_eq_iff (upper : major ≤ 0xFFFF) (lower : minor ≤ 0xFFFF) :
    ofParts (UInt16.ofNat major) (UInt16.ofNat minor) = handle ↔
      handle.raw.toNat = major * 65536 + minor := by
  have value : (ofParts (UInt16.ofNat major) (UInt16.ofNat minor)).raw.toNat =
      major * 65536 + minor := by
    rw [toNat_ofParts, UInt16.toNat_ofNat_of_lt' (Nat.lt_succ_iff.mpr upper),
      UInt16.toNat_ofNat_of_lt' (Nat.lt_succ_iff.mpr lower)]
  constructor
  · rintro rfl
    exact value
  · intro same
    exact ext_toNat (value.trans same.symm)

/-- The parts of a text are read when they are numerals. -/
theorem parseParts?_eq_some_iff :
    parseParts? chars = some handle ↔
      ∃ first second major minor, chars = first ++ ':' :: second ∧ Half first major ∧
        Behind second minor ∧ handle.raw.toNat = major * 65536 + minor := by
  constructor
  · intro parsed
    unfold parseParts? at parsed
    split at parsed
    · cases parsed
    · next c second found =>
        obtain ⟨major, readMajor, parsed⟩ := Option.bind_eq_some_iff.mp parsed
        obtain ⟨minor, lower, whole⟩ : ∃ minor, Behind second minor ∧
            ofParts (UInt16.ofNat major) (UInt16.ofNat minor) = handle := by
          cases second with
          | nil => exact ⟨0, .missing, Option.some.inj parsed⟩
          | cons c rest =>
              obtain ⟨minor, readMinor, same⟩ := Option.bind_eq_some_iff.mp parsed
              exact ⟨minor, .given (half_of_toOption readMinor), Option.some.inj same⟩
        have upper := half_of_toOption readMajor
        have colon : c = ':' := by
          have head := List.head?_dropWhile_not (· != ':') chars
          rw [found] at head
          simpa using head
        refine ⟨_, second, major, minor, ?_, upper, lower,
          (ofParts_eq_iff upper.2 lower.le).mp whole⟩
        rw [← colon, ← found, colon, List.takeWhile_append_dropWhile]
  · rintro ⟨first, second, major, minor, rfl, upper, lower, value⟩
    have readMinor : second = [] ∧ minor = 0 ∨
        second ≠ [] ∧ Hexadecimal.read UInt16.size second = .ok minor := by
      cases lower with
      | missing => exact .inl ⟨rfl, rfl⟩
      | given half => exact .inr ⟨half.1.ne_nil, half_iff.mp half⟩
    rw [parseParts?_of_read upper.colon_notMem (half_iff.mp upper) readMinor]
    exact congrArg some ((ofParts_eq_iff upper.2 lower.le).mpr value)

/-! ## Texts -/

theorem spelled_of_lookup (known : names.lookup text = some handle) : Spelled text handle := by
  have each : ∀ entry ∈ names, Spelled entry.1 entry.2 := by
    unfold names
    simp only [List.forall_mem_cons]
    exact ⟨.root, .ingress, .clsact, .none, List.forall_mem_nil _⟩
  obtain ⟨before, after, whole, _⟩ := List.lookup_eq_some_iff.mp known
  have among : (text, handle) ∈ names := by
    rw [whole]
    exact List.mem_append_right _ List.mem_cons_self
  exact each _ among

theorem parse_eq_ok_iff : parse text = .ok handle ↔ Spelled text handle := by
  constructor
  · intro parsed
    unfold parse at parsed
    split at parsed
    · next named =>
        cases parsed
        exact spelled_of_lookup named
    · split at parsed
      · next read =>
          cases parsed
          obtain ⟨first, second, major, minor, whole, upper, lower, value⟩ :=
            parseParts?_eq_some_iff.mp read
          rw [← String.ofList_toList (s := text), whole]
          exact .numbers upper lower value
      · cases parsed
  · intro spelled
    cases spelled with
    | root => exact parse_of_mem_names (by decide)
    | ingress => exact parse_of_mem_names (by decide)
    | clsact => exact parse_of_mem_names (by decide)
    | none => exact parse_of_mem_names (by decide)
    | @numbers first second major minor _ upper lower value =>
        have colon : ':' ∈ (String.ofList (first ++ ':' :: second)).toList := by
          rw [String.toList_ofList]
          exact List.mem_append_right _ List.mem_cons_self
        have read : parseParts? (first ++ ':' :: second) = some handle :=
          parseParts?_eq_some_iff.mpr ⟨_, _, _, _, rfl, upper, lower, value⟩
        rw [parse, lookup_names_of_colon colon, String.toList_ofList, read]

/-- There is only one error for a text, which carries it as it is. -/
theorem error_eq_of_parse {error : Error} (failed : parse text = .error error) :
    error = .handle text := by
  unfold parse at failed
  split at failed
  · cases failed
  · split at failed
    · cases failed
    · exact (Except.error.inj failed).symm

/-- A text is read as a handle exactly when it spells the handle, and exactly the texts that spell
none are refused, unchanged. -/
theorem parse_eq_ok_iff_and_parse_eq_error_iff (text : String) :
    (∀ handle, parse text = .ok handle ↔ Spelled text handle) ∧
      ∀ error, parse text = .error error ↔
        error = .handle text ∧ ∀ handle, ¬ Spelled text handle := by
  refine ⟨fun _ => parse_eq_ok_iff, fun error => ⟨fun failed => ?_, fun ⟨same, none⟩ => ?_⟩⟩
  · refine ⟨error_eq_of_parse failed, fun handle spelled => ?_⟩
    cases failed.symm.trans (parse_eq_ok_iff.mpr spelled)
  · cases outcome : parse text with
    | ok handle => exact absurd (parse_eq_ok_iff.mp outcome) (none handle)
    | error other => rw [error_eq_of_parse outcome, same]

/-- A second colon, a lonely sign, a sign that is no plus, and a number of seventeen bits. -/
example : ["1:2:3", "+:1", "1:-1", "00010000:", ":1", "ROOT"].map parse =
    ["1:2:3", "+:1", "1:-1", "00010000:", ":1", "ROOT"].map fun text => .error (.handle text) := by
  decide

end TrafficShaping.Handle
