import Mathlib.Data.List.Induction
import TrafficShaping.Proofs.Text.Hexadecimal

/-!
Which texts are hexadecimal numerals.

`Numeral` says what a numeral looks like and what number it stands for, without reading it: a run of
digits (`Spells`), of which each counts for sixteen times what is behind it, and possibly a plus
sign in front. Reading accepts exactly the numerals below the bound and gives their numbers
(`read_eq_ok_iff`). It stops early at a number that is too large, which loses nothing, since more
digits do not make a number smaller.
-/

namespace TrafficShaping.Text.Hexadecimal

/-- The digits in the order of their values, in either case. -/
def digitRows : List (List Char) := ["0123456789abcdef".toList, "0123456789ABCDEF".toList]

/-- Whether a character is the digit of a value. -/
def IsDigit (c : Char) (n : Nat) : Prop := ∃ row ∈ digitRows, row[n]? = some c

instance (c : Char) (n : Nat) : Decidable (IsDigit c n) :=
  inferInstanceAs (Decidable (∃ row ∈ digitRows, _))

/-- The digits of a number, of which there is at least one, and any number of zeros in front. -/
inductive Spells : List Char → Nat → Prop
  | single {c : Char} {n : Nat} (digit : IsDigit c n) : Spells [c] n
  | more {front : List Char} {upper : Nat} {c : Char} {n : Nat} (spelled : Spells front upper)
      (digit : IsDigit c n) : Spells (front ++ [c]) (upper * 16 + n)

/-- The numerals of a number. -/
inductive Numeral : List Char → Nat → Prop
  | plain {digits : List Char} {n : Nat} (spelled : Spells digits n) : Numeral digits n
  | signed {digits : List Char} {n : Nat} (spelled : Spells digits n) : Numeral ('+' :: digits) n

variable {bound n : Nat} {c : Char} {text digits : List Char}

/-! ## Digits -/

theorem digitValue?_eq_some_iff : digitValue? c = some n ↔ IsDigit c n := by
  constructor
  · intro value
    have each : ∀ m < 128, ∀ v ∈ digitValue? (Char.ofNat m), IsDigit (Char.ofNat m) v := by
      decide
    have small : c.toNat < 128 := by
      by_contra large
      have none : digitValue? c = none := by
        unfold digitValue?
        have notLower : ¬ c ≤ 'f' := fun le => large (Nat.lt_of_le_of_lt le (by decide))
        have notDigit : ¬ c ≤ '9' := fun le => large (Nat.lt_of_le_of_lt le (by decide))
        have notUpper : ¬ c ≤ 'F' := fun le => large (Nat.lt_of_le_of_lt le (by decide))
        rw [if_neg fun range => notDigit range.2, if_neg fun range => notLower range.2,
          if_neg fun range => notUpper range.2]
      cases value.symm.trans none
    have digit := each c.toNat small n
    rw [Char.ofNat_toNat] at digit
    exact digit value
  · rintro ⟨row, among, at_n⟩
    have each :
        ∀ row ∈ digitRows, ∀ m, (inside : m < row.length) → digitValue? row[m] = some m := by
      decide
    obtain ⟨inside, rfl⟩ := List.getElem?_eq_some_iff.mp at_n
    exact each row among n inside

theorem Spells.ne_nil (spelled : Spells digits n) : digits ≠ [] := by
  cases spelled with
  | single _ => exact List.cons_ne_nil _ _
  | more _ _ => exact List.append_ne_nil_of_right_ne_nil _ (List.cons_ne_nil _ _)

theorem Spells.exists_isDigit (spelled : Spells digits n) :
    ∀ c ∈ digits, ∃ value, IsDigit c value := by
  induction spelled with
  | single digit =>
      intro c among
      exact ⟨_, List.mem_singleton.mp among ▸ digit⟩
  | more _ digit ih =>
      intro c among
      rcases List.mem_append.mp among with upper | last
      · exact ih c upper
      · exact ⟨_, List.mem_singleton.mp last ▸ digit⟩

/-- A character that is no digit does not occur among digits. -/
theorem Spells.notMem (spelled : Spells digits n) (other : digitValue? c = none) : c ∉ digits := by
  intro among
  obtain ⟨value, digit⟩ := spelled.exists_isDigit c among
  cases other.symm.trans (digitValue?_eq_some_iff.mpr digit)

/-! ## Reading -/

theorem readDigits_singleton_eq_ok_iff {upper : Nat} :
    readDigits bound upper [c] = .ok n ↔
      ∃ value, IsDigit c value ∧ n = upper * 16 + value ∧ n < bound := by
  unfold readDigits
  cases found : digitValue? c with
  | none =>
      constructor
      · intro read
        cases read
      · rintro ⟨value, digit, _⟩
        cases found.symm.trans (digitValue?_eq_some_iff.mpr digit)
  | some digit =>
      have own := digitValue?_eq_some_iff.mp found
      dsimp only
      constructor
      · intro read
        split at read
        · next below =>
            cases read
            exact ⟨digit, own, rfl, below⟩
        · cases read
      · rintro ⟨value, other, rfl, below⟩
        cases found.symm.trans (digitValue?_eq_some_iff.mpr other)
        exact if_pos below

/-- The digits of a number below the bound are read as the number. -/
theorem Spells.readDigits (spelled : Spells digits n) (below : n < bound) :
    readDigits bound 0 digits = .ok n := by
  induction spelled with
  | single digit =>
      refine readDigits_singleton_eq_ok_iff.mpr ⟨_, digit, ?_, below⟩
      omega
  | more _ digit ih =>
      -- What is in front of the last digit is smaller still.
      rw [readDigits_append, ih (by omega)]
      exact readDigits_singleton_eq_ok_iff.mpr ⟨_, digit, rfl, below⟩

theorem spells_of_readDigits (nonempty : digits ≠ [])
    (read : readDigits bound 0 digits = .ok n) : Spells digits n ∧ n < bound := by
  induction digits using List.reverseRecOn generalizing n with
  | nil => exact absurd rfl nonempty
  | append_singleton front c ih =>
      rw [readDigits_append] at read
      obtain ⟨upper, first, last⟩ := Outcome.bind_eq_ok.mp read
      obtain ⟨value, digit, rfl, below⟩ := readDigits_singleton_eq_ok_iff.mp last
      refine ⟨?_, below⟩
      by_cases alone : front = []
      · subst alone
        cases first
        rw [Nat.zero_mul, Nat.zero_add]
        exact .single digit
      · exact .more (ih alone first).1 digit

/-- The texts that are read are the numerals of the numbers below the bound. -/
theorem read_eq_ok_iff : read bound text = .ok n ↔ Numeral text n ∧ n < bound := by
  constructor
  · intro done
    unfold read at done
    split at done
    · cases done
    · cases done
    · next digits more =>
        obtain ⟨spelled, below⟩ := spells_of_readDigits more done
        exact ⟨.signed spelled, below⟩
    · next digits nonempty _ _ =>
        obtain ⟨spelled, below⟩ := spells_of_readDigits nonempty done
        exact ⟨.plain spelled, below⟩
  · rintro ⟨numeral, below⟩
    cases numeral with
    | plain spelled =>
        rw [read_of_unsigned spelled.ne_nil (spelled.notMem rfl)]
        exact spelled.readDigits below
    | @signed digits _ spelled =>
        obtain ⟨first, rest, rfl⟩ := List.exists_cons_of_ne_nil spelled.ne_nil
        exact spelled.readDigits below

theorem Numeral.ne_nil (numeral : Numeral text n) : text ≠ [] := by
  cases numeral with
  | plain spelled => exact spelled.ne_nil
  | signed _ => exact List.cons_ne_nil _ _

/-- There are digits and a plus sign in a numeral and nothing else. -/
theorem Numeral.notMem (numeral : Numeral text n) (other : digitValue? c = none) (plus : c ≠ '+') :
    c ∉ text := by
  cases numeral with
  | plain spelled => exact spelled.notMem other
  | signed spelled => exact List.not_mem_cons_of_ne_of_not_mem plus (spelled.notMem other)

end TrafficShaping.Text.Hexadecimal
