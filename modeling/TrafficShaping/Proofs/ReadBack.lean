import TrafficShaping.Proofs.Dump
import TrafficShaping.Proofs.Kernel.Accepted
import TrafficShaping.Proofs.Kernel.Removal

/-!
A qdisc that has been added is read back.

An accepted addition has put one entry under a handle that was free and has removed at most a qdisc
without handle (`Kernel.Adds`). The entry holds the kind and the options of the request, and the
request those of the qdisc, so what the client then reads is what its own options decode to:
`Mutation.readsBack_of_add`. Nothing is assumed of the kernel but that it has answered.
-/

namespace TrafficShaping

namespace Kernel

variable {kernel after between : Kernel} {link : UInt32} {flags : UInt16}
  {request : TrafficRequest} {handle : Handle}

/-- What has no handle has nothing below it. -/
theorem Below.isNone {qdiscs : List Entry} {pending : List Handle}
    (below : Below link qdiscs pending handle)
    (nameless : ∀ handle ∈ pending, handle.isNone = true) : handle.isNone = true := by
  induction below with
  | pending _ _ among => exact nameless _ among
  | attached _ owner _ ih =>
      rw [Handle.isNone_iff.mp ih] at owner
      exact absurd rfl owner

/-- An entry has been added to the qdiscs: it is the only one under its handle, and all that had a
handle is still there. -/
structure Adds (kernel : Kernel) (entry : Entry) (after : Kernel) : Prop where
  alone : after.qdiscs.filter (·.isNamed entry.place.link entry.place.handle) = [entry]
  keeps : ∀ other ∈ kernel.qdiscs, other.place.handle.isNone = false → other ∈ after.qdiscs

/-- When at most a qdisc without handle has been replaced, all that had a handle is still there, and
the new qdisc stands behind it. -/
theorem CreatesQdisc.exists_qdiscs_eq {kind : String} {attached : Option Entry}
    (creates : CreatesQdisc kernel flags request kind attached handle between after)
    (nameless : ∀ qdisc, attached = some qdisc → qdisc.place.handle.isNone = true) :
    ∃ rest, after.qdiscs = rest ++ [⟨{ request.record.place with handle }, kind, request.options⟩] ∧
      (∀ other ∈ rest, other ∈ kernel.qdiscs) ∧
      ∀ other ∈ kernel.qdiscs, other.place.handle.isNone = false → other ∈ rest := by
  obtain ⟨nextMajor, rfl⟩ := exists_nextMajor_of_takeHandle creates.taken
  obtain ⟨removed, exactly, same⟩ := exists_remove_eq { kernel with nextMajor }
    request.record.place.link (attached.toList.map (·.place.handle))
  refine ⟨kernel.qdiscs.filter (leavesQdisc request.record.place.link removed), ?_, ?_, ?_⟩
  · rw [creates.after_eq, same]
    rfl
  · exact fun other left => (List.mem_filter.mp left).1
  · intro other member numbered
    refine List.mem_filter.mpr ⟨member, leavesQdisc_iff.mpr fun _ among => ?_⟩
    have gone : other.place.handle.isNone = true := by
      refine ((exactly _).mp among).isNone fun pending isPending => ?_
      obtain ⟨qdisc, present, rfl⟩ := List.mem_map.mp isPending
      exact nameless qdisc (Option.mem_toList.mp present)
    exact Bool.noConfusion (numbered.symm.trans gone)

/-- Among qdiscs that did not have a handle, a new one is the only one of the handle. -/
theorem filter_isNamed_concat {rest : List Entry} {qdisc : Entry}
    (unused : kernel.qdisc? qdisc.place.link qdisc.place.handle = none)
    (old : ∀ other ∈ rest, other ∈ kernel.qdiscs) :
    (rest ++ [qdisc]).filter (·.isNamed qdisc.place.link qdisc.place.handle) = [qdisc] := by
  have noOther : rest.filter (·.isNamed qdisc.place.link qdisc.place.handle) = [] :=
    List.filter_eq_nil_iff.mpr fun other member =>
      List.find?_eq_none.mp unused other (old other member)
  rw [List.filter_append, noOther, List.nil_append]
  exact List.filter_eq_self.mpr fun other member =>
    List.mem_singleton.mp member ▸ isNamed_iff.mpr ⟨rfl, rfl⟩

theorem CreatesQdisc.adds {kind : String} {attached : Option Entry}
    (creates : CreatesQdisc kernel flags request kind attached handle between after)
    (given : ¬ request.record.place.handle.isNone = true)
    (keeps : MessageFlag.isSet flags MessageFlag.replace = false) :
    Adds kernel ⟨request.record.place, kind, request.options⟩ after := by
  obtain ⟨_, unused, nameless⟩ := creates.given given
  obtain ⟨rfl, rfl⟩ := creates.taken_of_given given
  obtain ⟨rest, qdiscs, old, stays⟩ := creates.exists_qdiscs_eq (nameless keeps)
  constructor
  · rw [qdiscs]
    exact filter_isNamed_concat unused old
  · intro other member numbered
    rw [qdiscs]
    exact List.mem_append_left _ (stays other member numbered)

/-- An addition that is accepted does not change a qdisc, so it has created one. -/
theorem adds_of_newQdisc (done : newQdisc Mutation.add.flags request kernel = .ok () after)
    (given : ¬ request.record.place.handle.isNone = true) :
    ∃ kind, request.kind = some kind ∧
      Adds kernel ⟨request.record.place, kind, request.options⟩ after := by
  rcases newQdisc_eq_ok done with ⟨qdisc, changes⟩ | ⟨kind, attached, handle, between, creates⟩
  · have exclusive : MessageFlag.isSet Mutation.add.flags MessageFlag.exclusive = true := by decide
    exact Bool.noConfusion (exclusive.symm.trans changes.shared)
  · exact ⟨kind, creates.named, creates.adds given (by decide)⟩

end Kernel

namespace Mutation

/-- The kernel after a qdisc has been added. -/
theorem adds_of_run {qdisc : Qdisc} {clock : Clock} {endpoint added : Endpoint}
    (given : qdisc.place.handle.isNone = false) (free : '\x00' ∉ qdisc.kindName.toList)
    (done : (add.ofQdisc qdisc clock).run Endpoint.transport endpoint = (.ok (), added)) :
    ∃ options, qdisc.settings.encode clock = .ok options ∧
      endpoint.kernel.Adds ⟨qdisc.place, qdisc.kindName, options⟩ added.kernel := by
  have runs := runs_ofQdisc add qdisc clock endpoint
  rw [done] at runs
  obtain ⟨options, written, handled⟩ :=
    runs.exists_handled (conveys_qdiscRequest (by decide) qdisc clock) free
  have place : (TrafficRecord.ofPlace qdisc.place 0).place = qdisc.place :=
    TrafficRecord.place_ofPlace _ _
  obtain ⟨kind, named, adds⟩ := Kernel.adds_of_newQdisc handled (by
    rw [place]
    exact Bool.eq_false_iff.mp given)
  cases named
  rw [place] at adds
  exact ⟨options, written, adds⟩

/-- What the client sees of a qdisc that it has added and then looks for by its handle. -/
structure ReadsBack (qdisc : Qdisc) (clock : Clock) (before added : Endpoint)
    (found : Option Qdisc) : Prop where
  /-- The qdisc is found as its own options are decoded, counted afresh. -/
  decodes : ∃ options result, qdisc.settings.encode clock = .ok options ∧
    Qdisc.decode qdisc.kindName qdisc.place (some (if qdisc.place.parent.isRoot then 2 else 1)) .zero
      options clock = .ok result ∧
    found = some result
  /-- No other qdisc on the link is listed under the handle. -/
  alone : ∃ all,
    ((Dump.qdiscs (some qdisc.place.link) clock).run Endpoint.transport added).1 = .ok all ∧
      all.filter (·.place.handle == qdisc.place.handle) = found.toList
  /-- All that had a handle is still there. -/
  keeps : ∀ entry ∈ before.kernel.qdiscs, entry.place.handle.isNone = false →
    entry ∈ added.kernel.qdiscs

/-- Whatever the state of the kernel, a qdisc that has been added is read back. -/
theorem readsBack_of_add {qdisc : Qdisc} {clock : Clock} {endpoint added listed : Endpoint}
    {found : Option Qdisc} (given : qdisc.place.handle.isNone = false)
    (free : '\x00' ∉ qdisc.kindName.toList)
    (done : (add.ofQdisc qdisc clock).run Endpoint.transport endpoint = (.ok (), added))
    (got : (Dump.qdiscOfHandle qdisc.place.link qdisc.place.handle clock).run Endpoint.transport
      added = (.ok found, listed)) :
    ReadsBack qdisc clock endpoint added found := by
  obtain ⟨options, written, adds⟩ := adds_of_run given free done
  obtain ⟨header, dumps, run⟩ := Dump.exists_run_exchange added qdisc.place.link
  unfold Dump.qdiscOfHandle Dump.findQdisc at got
  rw [run] at got
  obtain ⟨all, list, look⟩ := Outcome.map_eq_ok.mp (congrArg Prod.fst got)
  obtain ⟨result, reads, alone⟩ := Dump.exists_filter_readQdiscs dumps adds.alone list
  have seen : found = some result := by
    rw [← look, ← List.head?_filter, alone]
    rfl
  refine ⟨⟨options, result, written, ?_, seen⟩, ⟨all, ?_, ?_⟩, adds.keeps⟩
  · exact Qdisc.decode_of_read_report free reads
  · unfold Dump.qdiscs
    rw [Option.getD_some, run]
    exact list
  · rw [alone, seen]
    rfl

/-- A qdisc that takes the place of the one that the kernel has attached by itself. -/
def ownRoot : Qdisc := .ofSettings ⟨2, .ofParts 1 0, .root⟩ (.hfsc ⟨5⟩)

/-- The kernel when `ownRoot` has been added to its only link. -/
def rooted : Kernel :=
  ⟨[⟨2, "eth0"⟩], [⟨ownRoot.place, "hfsc", some [5, 0]⟩], [], 0x8001⟩

theorem exists_run_ownRoot :
    ∃ request, (add.ofQdisc ownRoot .highResolution).run Endpoint.transport
      (.ofKernel (.ofLinks [⟨2, "eth0"⟩])) =
        (.ok (), (Endpoint.ofKernel (.ofLinks [⟨2, "eth0"⟩])).received request rooted) := by
  obtain ⟨request, made⟩ : ∃ request, add.qdiscRequest ownRoot .highResolution = .ok request :=
    ⟨_, rfl⟩
  obtain ⟨options, written, read⟩ :=
    (conveys_qdiscRequest (by decide) ownRoot .highResolution).exists_traffic (by decide) made
  cases written
  have removed : (Kernel.ofLinks [⟨2, "eth0"⟩]).remove 2 [.none] =
      ⟨[⟨2, "eth0"⟩], [], [], 0x8001⟩ := by
    unfold Kernel.remove
    rw [Kernel.prune, if_pos (by decide), if_pos (by decide), Kernel.prune]
    rfl
  have handled : add.qdiscHandler ⟨TrafficRecord.ofPlace ownRoot.place 0, some "hfsc", some [5, 0]⟩
      (.ofLinks [⟨2, "eth0"⟩]) =
      .ok () (((Kernel.ofLinks [⟨2, "eth0"⟩]).remove 2 [.none]).withQdisc
        ⟨ownRoot.place, "hfsc", some [5, 0]⟩) := rfl
  rw [removed] at handled
  exact ⟨request, (runs_ofQdisc add ownRoot .highResolution _).eq_of_handled made read handled⟩

theorem readsBack_of_add_ownRoot :
    ∃ added found listed, ownRoot.place.handle.isNone = false ∧
      '\x00' ∉ ownRoot.kindName.toList ∧
      (add.ofQdisc ownRoot .highResolution).run Endpoint.transport
        (.ofKernel (.ofLinks [⟨2, "eth0"⟩])) = (.ok (), added) ∧
      (Dump.qdiscOfHandle 2 ownRoot.place.handle .highResolution).run Endpoint.transport added =
        (.ok found, listed) ∧
      ReadsBack ownRoot .highResolution (.ofKernel (.ofLinks [⟨2, "eth0"⟩])) added found := by
  have given : ownRoot.place.handle.isNone = false := by decide
  have free : '\x00' ∉ ownRoot.kindName.toList := by decide
  obtain ⟨request, done⟩ := exists_run_ownRoot
  have readable : ∀ entry ∈ rooted.qdiscs, ∃ qdisc, Dump.ReadsAs .highResolution entry qdisc := by
    intro entry member
    rw [List.mem_singleton.mp member]
    exact ⟨_, (Qdisc.read_report (by decide) rfl _ _ _).trans rfl⟩
  obtain ⟨found, listed, got⟩ := Dump.exists_run_qdiscOfHandle
    ((Endpoint.ofKernel (.ofLinks [⟨2, "eth0"⟩])).received request rooted) readable 2
    ownRoot.place.handle
  exact ⟨_, _, _, given, free, done, got, readsBack_of_add given free done got⟩

end Mutation

end TrafficShaping
