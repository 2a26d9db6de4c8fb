import TrafficShaping.Proofs.ReadBack.Class

/-!
A change gives options to one object and does nothing else.

The request for a change has neither the flag to create nor the flag to replace, so of all that the
kernel may do to set up an object only one thing is left. Whatever the state of the kernel, a change
that succeeds leaves both tables with the same objects at the same places in the same order, and at
most one of them with other options: `Mutation.tunes_of_change`.
-/

namespace TrafficShaping

namespace Kernel

/-- The entry of a table that is chosen has been given options, if there are any. -/
structure Tunes (chosen : Entry → Bool) (options : Option Bytes) (entry : Entry)
    (before after : List Entry) : Prop where
  /-- Entry by entry, the link, the handle, the parent and the kind are as before. -/
  same : after.map (fun entry => (entry.place, entry.kind)) =
    before.map fun entry => (entry.place, entry.kind)
  /-- The first entry that is chosen has the options, and all others are as before. -/
  only : ∃ front back, before = front ++ entry :: back ∧
    (∀ other ∈ front, ¬ chosen other = true) ∧ after = front ++ withOptions options entry :: back

theorem tunes_setOptions {chosen : Entry → Bool} {entry : Entry} {entries : List Entry}
    (found : entries.find? chosen = some entry) (options : Option Bytes) :
    Tunes chosen options entry entries (Entry.setOptions chosen options entries) := by
  obtain ⟨front, back, whole, others, set⟩ := exists_setOptions_eq found options
  refine ⟨?_, front, back, whole, others, set⟩
  rw [set, whole, List.map_append, List.map_append]
  rfl

variable {kernel after : Kernel} {flags : UInt16} {request : TrafficRequest}

/-- Without the flag to create, a qdisc can only be changed. -/
theorem changes_of_newQdisc (done : newQdisc flags request kernel = .ok () after)
    (keeps : MessageFlag.isSet flags MessageFlag.create = false) :
    ∃ qdisc, ChangesQdisc kernel flags request qdisc after := by
  rcases newQdisc_eq_ok done with changes | ⟨_, _, _, _, creates⟩
  · exact changes
  · exact Bool.noConfusion (keeps.symm.trans creates.creates)

/-- Without the flag to create, a class can only be changed. -/
theorem changes_of_newClass (done : newClass flags request kernel = .ok () after)
    (keeps : MessageFlag.isSet flags MessageFlag.create = false) :
    ∃ qdisc handle, kernel.classTarget request.record.place = .ok (qdisc, handle) ∧
      ChangesClass kernel flags request qdisc handle after := by
  obtain ⟨qdisc, handle, targeted, changes | ⟨_, creates⟩⟩ := exists_classTarget_of_newClass done
  · exact ⟨qdisc, handle, targeted, changes⟩
  · exact Bool.noConfusion (keeps.symm.trans creates.creates)

end Kernel

namespace Mutation

/-- A kernel after a qdisc has been changed. -/
structure TunesQdisc (qdisc : Qdisc) (clock : Clock) (entry : Entry) (before after : Kernel) :
    Prop where
  kind : entry.kind = qdisc.kindName
  handle : qdisc.place.handle.isNone = true ∨ entry.place.handle = qdisc.place.handle
  found : before.child? qdisc.place.link qdisc.place.parent = some entry
  /-- The qdisc at the place gets the options of the object. -/
  tunes : ∃ options, qdisc.settings.encode clock = .ok options ∧
    Kernel.Tunes (·.isAttached qdisc.place.link qdisc.place.parent) options entry before.qdiscs
      after.qdiscs
  rest : after = { before with qdiscs := after.qdiscs }

/-- A kernel after a class has been changed. -/
structure TunesClass (tclass : Class) (clock : Clock) (entry : Entry) (before after : Kernel) :
    Prop where
  /-- The class has the handle that the place of the object stands for. -/
  target : ∃ owner, before.classTarget tclass.place = .ok (owner, entry.place.handle)
  found : before.class? tclass.place.link entry.place.handle = some entry
  /-- The class gets the options of the object. -/
  tunes : ∃ options, tclass.settings.encode clock = .ok options ∧
    Kernel.Tunes (·.isNamed tclass.place.link entry.place.handle) options entry before.classes
      after.classes
  rest : after = { before with classes := after.classes }

variable {clock : Clock} {endpoint changed : Endpoint}

theorem tunesQdisc_of_run {qdisc : Qdisc} (free : '\x00' ∉ qdisc.kindName.toList)
    (done : (change.ofQdisc qdisc clock).run Endpoint.transport endpoint = (.ok (), changed)) :
    ∃ entry, TunesQdisc qdisc clock entry endpoint.kernel changed.kernel := by
  have runs := runs_ofQdisc change qdisc clock endpoint
  rw [done] at runs
  obtain ⟨options, written, handled⟩ :=
    runs.exists_handled (conveys_qdiscRequest (by decide) qdisc clock) free
  obtain ⟨entry, found, _, handle, named, _, after_eq⟩ :=
    Kernel.changes_of_newQdisc handled (by decide)
  dsimp only at found handle after_eq
  rw [TrafficRecord.place_ofPlace] at found handle after_eq
  rw [after_eq]
  exact ⟨entry, (Option.some.inj named).symm, handle, found,
    ⟨options, written, Kernel.tunes_setOptions found options⟩, rfl⟩

theorem tunesClass_of_run {tclass : Class} (free : '\x00' ∉ tclass.kindName.toList)
    (done : (change.ofClass tclass clock).run Endpoint.transport endpoint = (.ok (), changed)) :
    ∃ entry, TunesClass tclass clock entry endpoint.kernel changed.kernel := by
  have runs := runs_ofClass change tclass clock endpoint
  rw [done] at runs
  obtain ⟨options, written, handled⟩ :=
    runs.exists_handled (conveys_classRequest (by decide) tclass clock) free
  obtain ⟨owner, handle, targeted, _, found, _, after_eq⟩ :=
    Kernel.changes_of_newClass handled (by decide)
  dsimp only at targeted found after_eq
  rw [TrafficRecord.place_ofPlace] at targeted found after_eq
  obtain ⟨entry, looked⟩ := Option.isSome_iff_exists.mp found
  obtain ⟨_, rfl⟩ := Kernel.isNamed_iff.mp (List.find?_some looked)
  rw [after_eq]
  exact ⟨entry, ⟨owner, targeted⟩, looked,
    ⟨options, written, Kernel.tunes_setOptions looked options⟩, rfl⟩

/-- Whatever the state of the kernel, a change that succeeds leaves all objects where they are and
gives options to one of them: the qdisc at the place, or the class of the handle. -/
theorem tunes_of_change (clock : Clock) (endpoint : Endpoint) :
    (∀ qdisc changed, '\x00' ∉ qdisc.kindName.toList →
      (change.ofQdisc qdisc clock).run Endpoint.transport endpoint = (.ok (), changed) →
      ∃ entry, TunesQdisc qdisc clock entry endpoint.kernel changed.kernel) ∧
    (∀ tclass changed, '\x00' ∉ tclass.kindName.toList →
      (change.ofClass tclass clock).run Endpoint.transport endpoint = (.ok (), changed) →
      ∃ entry, TunesClass tclass clock entry endpoint.kernel changed.kernel) :=
  ⟨fun _ _ => tunesQdisc_of_run, fun _ _ => tunesClass_of_run⟩

/-- `ownRoot` with another class for the packets that no filter has assigned to one. -/
def otherDefault : Qdisc := .ofSettings ownRoot.place (.hfsc ⟨0x10⟩)

/-- The kernel `rooted` when its qdisc has been changed to `otherDefault`. -/
def retuned : Kernel :=
  ⟨[⟨2, "eth0"⟩], [⟨ownRoot.place, "hfsc", some [0x10, 0]⟩], [], 0x8001⟩

/-- `belowOwnRoot` with half the rate, named without its major number. -/
def halfRate : Class :=
  .ofSettings ⟨2, .ofParts 0 0x10, .ofParts 1 0⟩
    (.hfsc (HfscClass.empty.withService ⟨62500, 0, 62500⟩))

theorem tunes_of_change_halfRate :
    ∃ endpoint changed entry both tclass,
      '\x00' ∉ otherDefault.kindName.toList ∧ '\x00' ∉ halfRate.kindName.toList ∧
      (change.ofQdisc otherDefault .highResolution).run Endpoint.transport endpoint =
        (.ok (), changed) ∧
      (change.ofClass halfRate .highResolution).run Endpoint.transport changed = (.ok (), both) ∧
      TunesQdisc otherDefault .highResolution entry endpoint.kernel changed.kernel ∧
      TunesClass halfRate .highResolution tclass changed.kernel both.kernel := by
  have freeQdisc : '\x00' ∉ otherDefault.kindName.toList := by decide
  have freeClass : '\x00' ∉ halfRate.kindName.toList := by decide
  obtain ⟨endpoint, old, _, kernel_eq⟩ := exists_run_belowOwnRoot (.ofKernel rooted) rfl
  obtain ⟨request, made⟩ :
      ∃ request, change.qdiscRequest otherDefault .highResolution = .ok request := ⟨_, rfl⟩
  have handled : change.qdiscHandler
      ⟨TrafficRecord.ofPlace otherDefault.place 0, some "hfsc", some [0x10, 0]⟩ endpoint.kernel =
        .ok () (retuned.withClass ⟨belowOwnRoot.place, "hfsc", old⟩) := by
    rw [kernel_eq]
    rfl
  have done := (runs_ofQdisc change otherDefault .highResolution endpoint).eq_of_conveys
    (conveys_qdiscRequest (by decide) otherDefault .highResolution) freeQdisc made rfl handled
  obtain ⟨classRequest, classMade⟩ :
      ∃ request, change.classRequest halfRate .highResolution = .ok request := ⟨_, rfl⟩
  obtain ⟨options, written⟩ : ∃ options, halfRate.settings.encode .highResolution = .ok options :=
    ⟨_, rfl⟩
  obtain ⟨after, classHandled⟩ : ∃ after, change.classHandler
      ⟨TrafficRecord.ofPlace halfRate.place 0, some "hfsc", options⟩
        (retuned.withClass ⟨belowOwnRoot.place, "hfsc", old⟩) = .ok () after := by
    unfold classHandler Kernel.newClass
    dsimp only
    rw [TrafficRecord.place_ofPlace]
    exact ⟨_, rfl⟩
  have both := (runs_ofClass change halfRate .highResolution
    (endpoint.received request _)).eq_of_conveys
    (conveys_classRequest (by decide) halfRate .highResolution) freeClass classMade written
    classHandled
  obtain ⟨entry, tunesQdisc⟩ := (tunes_of_change .highResolution endpoint).1 _ _ freeQdisc done
  obtain ⟨tclass, tunesClass⟩ := (tunes_of_change .highResolution _).2 _ _ freeClass both
  exact ⟨_, _, entry, _, tclass, freeQdisc, freeClass, done, both, tunesQdisc, tunesClass⟩

end Mutation

end TrafficShaping
