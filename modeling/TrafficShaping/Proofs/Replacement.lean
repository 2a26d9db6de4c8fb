import TrafficShaping.Proofs.Deletion
import TrafficShaping.Proofs.Kernel.Accepting
import TrafficShaping.Proofs.Session.Defaults

/-!
A replacement that is made twice is the same as one.

Whether the kernel has changed an object, created one or put one in the place of another, afterwards
the object is there, with the options that it was to have. In tables that are a tree it is the one
that is found at its place, so that the same request is now one to change it, and there is nothing
left to change: `Mutation.repeats_of_replace`.
-/

namespace TrafficShaping

namespace Kernel

variable {kernel after : Kernel} {flags : UInt16} {request : TrafficRequest}

theorem withOptions_withOptions (options : Option Bytes) (entry : Entry) :
    withOptions options (withOptions options entry) = withOptions options entry := by
  cases options with
  | none => rfl
  | some data => rfl

/-! ## Qdiscs -/

/-- A qdisc that was set up under a handle is in the table. -/
theorem exists_mem_of_newQdisc (done : newQdisc flags request kernel = .ok () after)
    (given : request.record.place.handle.isNone = false) :
    ∃ qdisc ∈ after.qdiscs, qdisc.place = request.record.place ∧
      request.kind = some qdisc.kind ∧ withOptions request.options qdisc = qdisc := by
  have asked := Bool.eq_false_iff.mp given
  rcases newQdisc_eq_ok done with ⟨qdisc, changes⟩ | ⟨kind, attached, handle, between, creates⟩
  · obtain ⟨front, back, _, _, set⟩ := exists_setOptions_eq changes.found request.options
    obtain ⟨_, link, parent⟩ := mem_qdiscs_of_child? changes.found
    have handle := changes.handle.resolve_left asked
    have place : qdisc.place = request.record.place := by
      cases known : qdisc.place
      cases wanted : request.record.place
      simp_all only
    rw [changes.after_eq, set]
    exact ⟨withOptions request.options qdisc, List.mem_append_right _ List.mem_cons_self, place,
      changes.named, withOptions_withOptions _ _⟩
  · obtain ⟨rfl, rfl⟩ := creates.taken_of_given asked
    rw [creates.after_eq]
    refine ⟨⟨request.record.place, kind, request.options⟩,
      List.mem_append_right _ List.mem_cons_self, rfl, creates.named, ?_⟩
    unfold withOptions
    rw [Option.or_self]

/-- A request to set up a qdisc is accepted again and changes nothing. -/
theorem newQdisc_again (sound : after.Sound) (done : newQdisc flags request kernel = .ok () after)
    (given : request.record.place.handle.isNone = false)
    (shared : MessageFlag.isSet flags MessageFlag.exclusive = false) :
    newQdisc flags request after = .ok () after := by
  obtain ⟨qdisc, member, place, named, has⟩ := exists_mem_of_newQdisc done given
  obtain ⟨_, linked, _⟩ := Handler.check_bind_eq_ok.mp done
  rw [← requireLink_congr (links_newQdisc done)] at linked
  have located := sound.qdiscAt_of_mem member
  have found := sound.qdiscParents.find?_isAttached member
  rw [place] at located found
  rw [newQdisc_of_attached linked located named given (congrArg Placement.handle place) shared,
    setOptions_eq_self found has]

/-! ## Classes -/

theorem classTarget_withClasses (kernel : Kernel) (classes : List Entry) (place : Placement) :
    classTarget { kernel with classes } place = kernel.classTarget place := rfl

/-- A class that was set up is the one that is found. -/
theorem exists_class?_of_newClass (done : newClass flags request kernel = .ok () after) :
    ∃ qdisc handle tclass,
      kernel.classTarget request.record.place = .ok (qdisc, handle) ∧
      after.class? request.record.place.link handle = some tclass ∧
      withOptions request.options tclass = tclass := by
  obtain ⟨qdisc, handle, targeted, changes | ⟨parent, creates⟩⟩ := exists_classTarget_of_newClass done
  · obtain ⟨tclass, found⟩ := Option.isSome_iff_exists.mp changes.found
    obtain ⟨front, back, _, others, set⟩ := exists_setOptions_eq found request.options
    rw [changes.after_eq]
    refine ⟨qdisc, handle, withOptions request.options tclass, targeted, ?_,
      withOptions_withOptions _ _⟩
    have named : tclass.isNamed request.record.place.link handle = true := List.find?_some found
    rw [class?, set]
    refine List.find?_eq_some_iff_append.mpr ⟨named, front, back, rfl, fun other member => ?_⟩
    exact (Bool.not_eq_true' _).mpr (Bool.eq_false_iff.mpr (others other member))
  · rw [creates.after_eq]
    refine ⟨qdisc, handle,
      ⟨⟨request.record.place.link, handle, parent⟩, qdisc.kind, request.options⟩, targeted, ?_, ?_⟩
    · have free := creates.free
      rw [class?] at free
      rw [class?, withClass, List.find?_append, free, Option.none_or, List.find?_cons_of_pos]
      exact isNamed_iff.mpr ⟨rfl, rfl⟩
    · unfold withOptions
      rw [Option.or_self]

/-- A request to set up a class is accepted again and changes nothing. -/
theorem newClass_again (done : newClass flags request kernel = .ok () after)
    (shared : MessageFlag.isSet flags MessageFlag.exclusive = false) :
    newClass flags request after = .ok () after := by
  obtain ⟨qdisc, handle, tclass, targeted, found, has⟩ := exists_class?_of_newClass done
  obtain ⟨classes, rfl⟩ := exists_classes_of_newClass done
  rw [← classTarget_withClasses kernel classes] at targeted
  rw [newClass_of_found targeted found shared, setOptions_eq_self found has]

end Kernel

namespace Mutation

variable {clock : Clock} {endpoint replaced : Endpoint}

theorem repeats_ofQdisc (sound : endpoint.kernel.Sound) {qdisc : Qdisc}
    (given : qdisc.place.handle.isNone = false)
    (done : (replace.ofQdisc qdisc clock).run Endpoint.transport endpoint = (.ok (), replaced)) :
    ∃ again, (replace.ofQdisc qdisc clock).run Endpoint.transport replaced = (.ok (), again) ∧
      again.kernel = replaced.kernel := by
  have runs := runs_ofQdisc replace qdisc clock endpoint
  rw [done] at runs
  cases runs with
  | accepted made read placed handled =>
      rw [← placed] at given
      have after := Operation.sound_qdiscHandler (fun _ => given) handled sound
      have again := Kernel.newQdisc_again after handled given (by decide)
      exact ⟨_, (runs_ofQdisc replace qdisc clock _).eq_of_handled made read again, rfl⟩

theorem repeats_ofClass {tclass : Class}
    (done : (replace.ofClass tclass clock).run Endpoint.transport endpoint = (.ok (), replaced)) :
    ∃ again, (replace.ofClass tclass clock).run Endpoint.transport replaced = (.ok (), again) ∧
      again.kernel = replaced.kernel := by
  have runs := runs_ofClass replace tclass clock endpoint
  rw [done] at runs
  cases runs with
  | accepted made read _ handled =>
      have again := Kernel.newClass_again handled (by decide)
      exact ⟨_, (runs_ofClass replace tclass clock _).eq_of_handled made read again, rfl⟩

/-- After every session in which all qdiscs come with handles, a replacement that succeeds does so
again, and leaves the kernel as it is. -/
theorem repeats_of_replace {links : List Link} {operations : List Operation}
    (distinct : (links.map Link.index).Nodup)
    (handles : ∀ operation ∈ operations, operation.GivesHandle) (clock : Clock) :
    (∀ qdisc replaced, qdisc.place.handle.isNone = false →
      (replace.ofQdisc qdisc clock).run Endpoint.transport
        ((Endpoint.ofKernel (.ofLinks links)).session operations) = (.ok (), replaced) →
      ∃ again, (replace.ofQdisc qdisc clock).run Endpoint.transport replaced = (.ok (), again) ∧
        again.kernel = replaced.kernel) ∧
    (∀ tclass replaced,
      (replace.ofClass tclass clock).run Endpoint.transport
        ((Endpoint.ofKernel (.ofLinks links)).session operations) = (.ok (), replaced) →
      ∃ again, (replace.ofClass tclass clock).run Endpoint.transport replaced = (.ok (), again) ∧
        again.kernel = replaced.kernel) :=
  ⟨fun _ _ => repeats_ofQdisc (Endpoint.sound_session distinct handles),
    fun _ _ => repeats_ofClass⟩

/-- A qdisc that takes the place of `ownRoot` and of all that is below it. -/
def otherRoot : Qdisc := .ofSettings ⟨2, .ofParts 2 0, .root⟩ (.hfsc ⟨7⟩)

theorem repeats_of_replace_otherRoot :
    ([⟨2, "eth0"⟩].map Link.index).Nodup ∧ (∀ operation ∈ twoLevels, operation.GivesHandle) ∧
      otherRoot.place.handle.isNone = false ∧
      (∃ replaced again,
        (replace.ofQdisc otherRoot .highResolution).run Endpoint.transport
          ((Endpoint.ofKernel (.ofLinks [⟨2, "eth0"⟩])).session twoLevels) = (.ok (), replaced) ∧
        (replace.ofQdisc otherRoot .highResolution).run Endpoint.transport replaced =
          (.ok (), again) ∧ again.kernel = replaced.kernel) ∧
      ∃ replaced again,
        (replace.ofClass belowOwnRoot .highResolution).run Endpoint.transport
          ((Endpoint.ofKernel (.ofLinks [⟨2, "eth0"⟩])).session twoLevels) = (.ok (), replaced) ∧
        (replace.ofClass belowOwnRoot .highResolution).run Endpoint.transport replaced =
          (.ok (), again) ∧ again.kernel = replaced.kernel := by
  have distinct : ([⟨2, "eth0"⟩].map Link.index).Nodup := by decide
  have given : otherRoot.place.handle.isNone = false := by decide
  obtain ⟨old, kernel_eq⟩ := exists_kernel_session_twoLevels
  obtain ⟨qdiscs, classes⟩ := repeats_of_replace distinct givesHandle_twoLevels .highResolution
  refine ⟨distinct, givesHandle_twoLevels, given, ?_, ?_⟩
  · obtain ⟨request, made⟩ :
        ∃ request, replace.qdiscRequest otherRoot .highResolution = .ok request := ⟨_, rfl⟩
    obtain ⟨after, handled⟩ : ∃ after, replace.qdiscHandler
        ⟨TrafficRecord.ofPlace otherRoot.place 0, some "hfsc", some [7, 0]⟩
        ((Endpoint.ofKernel (.ofLinks [⟨2, "eth0"⟩])).session twoLevels).kernel =
          .ok () after := by
      rw [kernel_eq]
      exact ⟨_, rfl⟩
    have done := (runs_ofQdisc replace otherRoot .highResolution _).eq_of_conveys
      (conveys_qdiscRequest (by decide) otherRoot .highResolution) (by decide) made rfl handled
    exact ⟨_, _, done, (qdiscs _ _ given done).choose_spec⟩
  · obtain ⟨request, made⟩ :
        ∃ request, replace.classRequest belowOwnRoot .highResolution = .ok request := ⟨_, rfl⟩
    obtain ⟨options, written⟩ :
        ∃ options, belowOwnRoot.settings.encode .highResolution = .ok options := ⟨_, rfl⟩
    obtain ⟨after, handled⟩ : ∃ after, replace.classHandler
        ⟨TrafficRecord.ofPlace belowOwnRoot.place 0, some "hfsc", options⟩
        ((Endpoint.ofKernel (.ofLinks [⟨2, "eth0"⟩])).session twoLevels).kernel =
          .ok () after := by
      rw [kernel_eq]
      unfold classHandler Kernel.newClass
      dsimp only
      rw [TrafficRecord.place_ofPlace]
      exact ⟨_, rfl⟩
    have done := (runs_ofClass replace belowOwnRoot .highResolution _).eq_of_conveys
      (conveys_classRequest (by decide) belowOwnRoot .highResolution) (by decide) made written
      handled
    exact ⟨_, _, done, (classes _ _ done).choose_spec⟩

end Mutation

end TrafficShaping
