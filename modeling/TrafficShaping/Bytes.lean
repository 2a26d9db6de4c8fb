/-!
Byte strings and the four-byte alignment of the kernel's message formats.

`Bytes.align` rounds a length up to the grid, `Bytes.padded` fills a byte string with zeros up to
it, and `Bytes.splitExact?` cuts a byte string of known length off the front of another one. A
number of a fixed width is written least significant byte first by `Bytes.ofNat` and read back by
`Bytes.toNat`.
-/

namespace TrafficShaping

/-- A byte string. -/
abbrev Bytes := List UInt8

namespace Bytes

/-- The least multiple of four that is not below `n`. -/
def align (n : Nat) : Nat := (n + 3) / 4 * 4

theorem le_align (n : Nat) : n ≤ align n := by unfold align; omega

/-- `n` zero bytes. -/
def zeros (n : Nat) : Bytes := List.replicate n 0

/-- The byte string followed by the zeros that bring its length to a multiple of four. -/
def padded (data : Bytes) : Bytes := data ++ zeros (align data.length - data.length)

/-- Whether a byte string ends on a four-byte boundary. -/
def Aligned (data : Bytes) : Prop := data.length % 4 = 0

theorem align_mod_four (n : Nat) : align n % 4 = 0 := Nat.mul_mod_left _ 4

theorem align_of_mod_four {n : Nat} (multiple : n % 4 = 0) : align n = n := by
  unfold align
  omega

theorem align_add {m : Nat} (multiple : m % 4 = 0) (n : Nat) : align (m + n) = m + align n := by
  unfold align
  omega

@[simp] theorem length_zeros (n : Nat) : (zeros n).length = n := List.length_replicate

@[simp] theorem length_padded (data : Bytes) : (padded data).length = align data.length := by
  have grid := le_align data.length
  simp only [padded, List.length_append, length_zeros]
  omega

theorem aligned_nil : Aligned [] := rfl

theorem aligned_padded (data : Bytes) : Aligned (padded data) := by
  unfold Aligned
  rw [length_padded]
  exact align_mod_four _

theorem Aligned.append {front back : Bytes} (first : Aligned front) (second : Aligned back) :
    Aligned (front ++ back) := by
  unfold Aligned at *
  rw [List.length_append]
  omega

theorem Aligned.padded_eq {data : Bytes} (aligned : Aligned data) : padded data = data := by
  rw [padded, align_of_mod_four aligned, Nat.sub_self]
  exact List.append_nil data

/-- Behind aligned bytes it makes no difference whether the filling is counted from the first byte
of all or from the first byte behind them. -/
theorem Aligned.padded_append {front : Bytes} (aligned : Aligned front) (back : Bytes) :
    padded (front ++ back) = front ++ padded back := by
  have same : align (front.length + back.length) - (front.length + back.length)
      = align back.length - back.length := by
    rw [align_add aligned]
    omega
  rw [padded, List.length_append, same, List.append_assoc]
  rfl

/-- The first `n` bytes and what follows them; `none` when fewer than `n` bytes are there. -/
def splitExact? (n : Nat) (data : Bytes) : Option (Bytes × Bytes) :=
  if (data.take n).length = n then some (data.take n, data.drop n) else none

/-- Nothing is lost: the two parts of a cut, put together, are the data, and the first has the
length asked for. -/
theorem splitExact?_eq_some {n : Nat} {data front rest : Bytes}
    (cut : splitExact? n data = some (front, rest)) :
    front.length = n ∧ data = front ++ rest := by
  unfold splitExact? at cut
  split at cut
  · next full =>
      cases cut
      exact ⟨full, (List.take_append_drop n data).symm⟩
  · cases cut

/-- A byte string that begins with `n` bytes is cut behind them. -/
theorem splitExact?_append {n : Nat} {front : Bytes} (width : front.length = n) (rest : Bytes) :
    splitExact? n (front ++ rest) = some (front, rest) := by
  subst width
  simp [splitExact?]

/-- A cut fails on shorter byte strings only. -/
theorem splitExact?_eq_none {n : Nat} {data : Bytes} :
    splitExact? n data = none ↔ data.length < n := by
  simp only [splitExact?, List.length_take]
  split <;> simp <;> omega

/-- The `width` low bytes of `n`, least significant first. -/
def ofNat : (width : Nat) → (n : Nat) → Bytes
  | 0, _ => []
  | width + 1, n => UInt8.ofNat (n % 256) :: ofNat width (n / 256)

/-- The number whose bytes these are, least significant first. -/
def toNat : Bytes → Nat
  | [] => 0
  | b :: rest => b.toNat + 256 * toNat rest

@[simp] theorem length_ofNat (width n : Nat) : (ofNat width n).length = width := by
  induction width generalizing n with
  | zero => rfl
  | succ width ih => simp [ofNat, ih]

/-- The least number that does not fit into `width` bytes. -/
def bound : (width : Nat) → Nat
  | 0 => 1
  | width + 1 => 256 * bound width

/-- A number is read back from its bytes, reduced to their width. -/
theorem toNat_ofNat (width n : Nat) : toNat (ofNat width n) = n % bound width := by
  induction width generalizing n with
  | zero => simp [ofNat, toNat, bound, Nat.mod_one]
  | succ width ih =>
      have low : (UInt8.ofNat (n % 256)).toNat = n % 256 := by simp
      rw [ofNat, toNat, ih, low, bound, Nat.mod_mul]

/-- Bytes are those of the number they spell. -/
theorem ofNat_toNat (data : Bytes) : ofNat data.length (toNat data) = data := by
  induction data with
  | nil => rfl
  | cons b rest ih =>
      have small : b.toNat < 256 := b.toNat_lt
      simp only [List.length_cons, ofNat, toNat]
      rw [Nat.add_mul_mod_self_left, Nat.add_mul_div_left _ _ (by decide), Nat.mod_eq_of_lt small,
        Nat.div_eq_of_lt small, Nat.zero_add, ih]
      simp

theorem toNat_lt (data : Bytes) : toNat data < bound data.length := by
  induction data with
  | nil => simp [toNat, bound]
  | cons b rest ih =>
      have small : b.toNat < 256 := b.toNat_lt
      simp only [toNat, List.length_cons, bound]
      omega

/-- A byte string of exactly `n` bytes. -/
abbrev Exact (n : Nat) := { data : Bytes // data.length = n }

end Bytes

end TrafficShaping
