import TrafficShaping.Proofs.Kernel.TreeSteps
import TrafficShaping.Proofs.Session

/-!
A session leaves a tree on each link.

The kernel starts with links of different indexes. As long as the client gives a handle to every
qdisc that it adds or replaces, all calls, whatever they are about and whatever comes of them, keep
the tables well-formed.
-/

namespace TrafficShaping

namespace Operation

/-- Whether a qdisc that the call may create comes with a handle. -/
def GivesHandle : Operation → Prop
  | mutateQdisc mutation qdisc _ =>
    mutation = .add ∨ mutation = .replace → qdisc.place.handle.isNone = false
  | _ => True

theorem sound_qdiscHandler {mutation : Mutation} {traffic : TrafficRequest}
    {kernel after : Kernel}
    (given : mutation = .add ∨ mutation = .replace →
      traffic.record.place.handle.isNone = false)
    (handled : mutation.qdiscHandler traffic kernel = .ok () after) (sound : kernel.Sound) :
    after.Sound := by
  cases mutation with
  | delete => exact sound.deleteQdisc handled
  | add =>
      have handle := given (.inl rfl)
      exact sound.newQdisc handled fun _ none => Bool.noConfusion (handle.symm.trans none)
  | replace =>
      have handle := given (.inr rfl)
      exact sound.newQdisc handled fun _ none => Bool.noConfusion (handle.symm.trans none)
  | change =>
      have creates : MessageFlag.isSet Mutation.change.flags MessageFlag.create = false := by decide
      exact sound.newQdisc handled fun set => Bool.noConfusion (creates.symm.trans set)

theorem sound_classHandler {mutation : Mutation} {traffic : TrafficRequest}
    {kernel after : Kernel}
    (handled : mutation.classHandler traffic kernel = .ok () after) (sound : kernel.Sound) :
    after.Sound := by
  cases mutation with
  | delete => exact sound.deleteClass handled
  | add => exact sound.newClass handled
  | change => exact sound.newClass handled
  | replace => exact sound.newClass handled

theorem sound_of_step (operation : Operation) (kernel after : Kernel)
    (allowed : operation.GivesHandle) (step : operation.Step kernel after) (sound : kernel.Sound) :
    after.Sound := by
  cases step with
  | idle => exact sound
  | qdisc placed handled =>
      refine sound_qdiscHandler (fun creates => ?_) handled sound
      rw [placed]
      exact allowed creates
  | tclass _ handled => exact sound_classHandler handled sound

end Operation

namespace Endpoint

variable {links : List Link} {operations : List Operation}

theorem sound_session (distinct : (links.map Link.index).Nodup)
    (handles : ∀ operation ∈ operations, operation.GivesHandle) :
    ((ofKernel (Kernel.ofLinks links)).session operations).kernel.Sound :=
  holds_session Operation.sound_of_step operations _ (Kernel.sound_ofLinks distinct) handles

/-- After every session the tables are a tree on each link. -/
theorem wellFormed_session (distinct : (links.map Link.index).Nodup)
    (handles : ∀ operation ∈ operations, operation.GivesHandle) :
    ((ofKernel (Kernel.ofLinks links)).session operations).kernel.WellFormed :=
  (sound_session distinct handles).wellFormed

/-- On the first of two links a qdisc with two classes, one below the other, and a qdisc on the
lower class; then another qdisc takes the place of the first. -/
def regrafting : List Operation :=
  [.mutateQdisc .add (.ofSettings ⟨2, .ofParts 1 0, .root⟩ (.hfsc ⟨2⟩)) .highResolution,
    .mutateClass .add (.ofSettings ⟨2, .ofParts 1 1, .root⟩ (.generic "hfsc" none))
      .highResolution,
    .mutateClass .add (.ofSettings ⟨2, .ofParts 1 2, .ofParts 1 1⟩ (.generic "hfsc" none))
      .highResolution,
    .mutateQdisc .add (.ofSettings ⟨2, .ofParts 16 0, .ofParts 1 2⟩ (.generic "drr" none))
      .highResolution,
    .mutateQdisc .replace (.ofSettings ⟨2, .ofParts 2 0, .root⟩ (.hfsc ⟨5⟩)) .highResolution]

theorem wellFormed_session_regrafting :
    ([⟨2, "eth0"⟩, ⟨3, "eth1"⟩].map Link.index).Nodup ∧
      (∀ operation ∈ regrafting, operation.GivesHandle) ∧
      ((ofKernel (Kernel.ofLinks [⟨2, "eth0"⟩, ⟨3, "eth1"⟩])).session
        regrafting).kernel.WellFormed := by
  have distinct : ([⟨2, "eth0"⟩, ⟨3, "eth1"⟩].map Link.index).Nodup := by decide
  have handles : ∀ operation ∈ regrafting, operation.GivesHandle := by
    intro operation member
    simp only [regrafting, List.mem_cons, List.not_mem_nil, or_false] at member
    rcases member with rfl | rfl | rfl | rfl | rfl
    · exact fun _ => rfl
    · trivial
    · trivial
    · exact fun _ => rfl
    · exact fun _ => rfl
  exact ⟨distinct, handles, wellFormed_session distinct handles⟩

end Endpoint

end TrafficShaping
