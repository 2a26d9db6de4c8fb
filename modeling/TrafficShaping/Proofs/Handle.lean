import TrafficShaping.Handle

/-!
A handle and its two numbers.

A handle is put together from its major and its minor number and is nothing besides:
`Handle.major_ofParts`, `Handle.minor_ofParts` and `Handle.ofParts_major_minor`. The handles of
qdiscs have no minor number, so that the major number tells them apart.
-/

namespace TrafficShaping.Handle

theorem toNat_major (handle : Handle) : handle.major.toNat = handle.raw.toNat / 65536 := by
  have small : handle.raw.toNat / 65536 < 65536 := by
    have := handle.raw.toNat_lt
    omega
  change (handle.raw >>> 16).toUInt16.toNat = _
  rw [UInt32.toNat_toUInt16, UInt32.toNat_shiftRight]
  change (handle.raw.toNat >>> 16) % 65536 = _
  rw [Nat.shiftRight_eq_div_pow]
  exact Nat.mod_eq_of_lt small

theorem toNat_minor (handle : Handle) : handle.minor.toNat = handle.raw.toNat % 65536 := by
  change (handle.raw &&& 0xFFFF).toUInt16.toNat = _
  rw [UInt32.toNat_toUInt16, UInt32.toNat_and]
  change (handle.raw.toNat &&& 2 ^ 16 - 1) % 65536 = _
  rw [Nat.and_two_pow_sub_one_eq_mod]
  exact Nat.mod_mod _ _

theorem toNat_ofParts (major minor : UInt16) :
    (ofParts major minor).raw.toNat = major.toNat * 65536 + minor.toNat := by
  have upper := major.toNat_lt
  have lower := minor.toNat_lt
  change ((major.toUInt32 <<< 16) ||| minor.toUInt32).toNat = _
  rw [UInt32.toNat_or, UInt32.toNat_shiftLeft, UInt16.toNat_toUInt32, UInt16.toNat_toUInt32]
  change (major.toNat <<< 16 % 2 ^ 32) ||| minor.toNat = _
  have fits : major.toNat <<< 16 < 2 ^ 32 := by
    rw [Nat.shiftLeft_eq]
    omega
  rw [Nat.mod_eq_of_lt fits, ← Nat.shiftLeft_add_eq_or_of_lt lower, Nat.shiftLeft_eq]

@[ext] theorem ext_toNat {a b : Handle} (same : a.raw.toNat = b.raw.toNat) : a = b :=
  congrArg Handle.mk (UInt32.toNat_inj.mp same)

@[simp] theorem major_ofParts (major minor : UInt16) : (ofParts major minor).major = major := by
  have lower := minor.toNat_lt
  apply UInt16.toNat_inj.mp
  rw [toNat_major, toNat_ofParts]
  omega

@[simp] theorem minor_ofParts (major minor : UInt16) : (ofParts major minor).minor = minor := by
  have lower := minor.toNat_lt
  apply UInt16.toNat_inj.mp
  rw [toNat_minor, toNat_ofParts]
  omega

theorem ofParts_major_minor (handle : Handle) : ofParts handle.major handle.minor = handle := by
  apply ext_toNat
  rw [toNat_ofParts, toNat_major, toNat_minor]
  omega

@[simp] theorem major_qdisc (handle : Handle) : handle.qdisc.major = handle.major :=
  major_ofParts _ _

@[simp] theorem minor_qdisc (handle : Handle) : handle.qdisc.minor = 0 := minor_ofParts _ _

/-- Without a minor number a handle is that of the qdisc with its major number. -/
theorem qdisc_eq_of_minor {handle : Handle} (plain : handle.minor = 0) : handle.qdisc = handle := by
  have whole := ofParts_major_minor handle
  rwa [plain] at whole

theorem eq_of_major {a b : Handle} (plainA : a.minor = 0) (plainB : b.minor = 0)
    (same : a.major = b.major) : a = b := by
  rw [← qdisc_eq_of_minor plainA, ← qdisc_eq_of_minor plainB, qdisc, qdisc, same]

theorem isNone_iff {handle : Handle} : handle.isNone = true ↔ handle = none := decide_eq_true_iff

theorem isRoot_iff {handle : Handle} : handle.isRoot = true ↔ handle = root := decide_eq_true_iff

theorem isNone_qdisc_of_major {handle : Handle} (major : handle.major ≠ 0) :
    handle.qdisc.isNone = false := by
  refine Bool.eq_false_iff.mpr fun missing => major ?_
  rw [← major_qdisc, isNone_iff.mp missing]
  rfl

end TrafficShaping.Handle
