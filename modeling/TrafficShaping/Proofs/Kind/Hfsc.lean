import TrafficShaping.Kind.Hfsc
import TrafficShaping.Proofs.Attribute.Leaves

/-!
The options of HFSC qdiscs and classes carry the default class and all curves.
-/

namespace TrafficShaping

@[simp] theorem HfscQdisc.decode_encode (qdisc : HfscQdisc) :
    decode (some qdisc.encode) = .ok qdisc :=
  lawful_layout.read_toBytes qdisc

namespace CurveRole

@[simp] theorem ofTag?_tag (role : CurveRole) : ofTag? role.tag = some role := by
  cases role <;> rfl

@[simp] theorem tagOf_tag (role : CurveRole) : AttributeHeader.tagOf role.tag = role.tag := by
  cases role <;> decide

end CurveRole

namespace HfscClass

/-- The record that the curve of a role is found as. -/
def record (hclass : HfscClass) (role : CurveRole) : Tagged :=
  ⟨role.tag, Record.toBytes (hclass.curve role)⟩

/-- The records that the options of a class are found as. -/
def records (hclass : HfscClass) : List Tagged :=
  [CurveRole.realTime, .linkShare, .upperLimit].map hclass.record

theorem isWritable_record (hclass : HfscClass) (role : CurveRole) :
    (hclass.record role).IsWritable := by
  refine ⟨role.tagOf_tag, ?_⟩
  unfold record
  rw [ServiceCurve.lawful_layout.length_toBytes]
  decide

theorem apply_record (hclass other : HfscClass) (role : CurveRole) :
    hclass.apply (other.record role) = .ok (hclass.withCurve role (other.curve role)) := by
  unfold apply record
  rw [CurveRole.ofTag?_tag]
  change (Record.read ServiceCurve _).map _ = _
  rw [ServiceCurve.lawful_layout.read_toBytes]
  rfl

theorem foldlM_apply_records (hclass : HfscClass) :
    hclass.records.foldlM apply empty = .ok hclass := by
  unfold records
  simp only [List.map_cons, List.map_nil, List.foldlM_cons, apply_record]
  rfl

/-- The options of a class are written, and they carry all its curves. -/
theorem exists_encode (hclass : HfscClass) :
    ∃ data, hclass.encode = .ok data ∧ decode (some data) = .ok hclass := by
  have writable : ∀ record ∈ hclass.records, record.IsWritable := by
    intro record member
    obtain ⟨role, _, rfl⟩ := List.mem_map.mp member
    exact hclass.isWritable_record role
  obtain ⟨data, written, parsed⟩ := Tagged.exists_writeAll_toLeaf writable
  exact ⟨data, written, Outcome.bind_eq_ok.mpr ⟨_, parsed 0, hclass.foldlM_apply_records⟩⟩

end HfscClass

end TrafficShaping
