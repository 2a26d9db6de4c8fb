import TrafficShaping.Kernel.Endpoint

/-!
A refused request has changed nothing.

A handler keeps what it has written when it refuses, so this is a matter of order: each of them is a
number of checks, which write nothing, and then only writes, which do not refuse.
`Handler.Guarded` follows this order through a handler, and `Kernel.guarded_respond` puts the
handlers together. A request that asks for something consists of checks alone, so it changes nothing
when it is accepted either: `Kernel.reads_respond`.
-/

namespace TrafficShaping

namespace Handler

variable {α β : Type}

/-- Whether a refusal leaves the state as it was. -/
def Guarded (handler : Handler α) : Prop :=
  ∀ (kernel after : Kernel) (refusal : Refusal),
    handler kernel = .error refusal after → after = kernel

/-- Whether there is nothing more to refuse. -/
def Writes (handler : Handler α) : Prop := ∀ kernel, ∃ value after, handler kernel = .ok value after

theorem writes_pure (value : α) : Writes (pure value : Handler α) := fun kernel =>
  ⟨value, kernel, rfl⟩

theorem writes_modify (change : Kernel → Kernel) : Writes (modify change : Handler Unit) :=
  fun kernel => ⟨(), change kernel, rfl⟩

theorem Writes.bind {first : Handler α} {next : α → Handler β} (writes : first.Writes)
    (later : ∀ value, (next value).Writes) : (first >>= next).Writes := by
  intro kernel
  obtain ⟨value, between, written⟩ := writes kernel
  obtain ⟨last, after, done⟩ := later value between
  refine ⟨last, after, ?_⟩
  change EStateM.bind first next kernel = _
  unfold EStateM.bind
  rw [written]
  exact done

theorem Writes.guarded {handler : Handler α} (writes : handler.Writes) : handler.Guarded := by
  intro kernel after refusal refused
  obtain ⟨value, other, written⟩ := writes kernel
  cases written.symm.trans refused

theorem guarded_throw (refusal : Refusal) : Guarded (throw refusal : Handler α) := by
  intro kernel after other refused
  cases refused
  rfl

theorem guarded_check (condition : Kernel → Except Refusal α) : (check condition).Guarded := by
  intro kernel after refusal refused
  unfold check at refused
  split at refused
  · cases refused
  · cases refused
    rfl

/-- A check may come before all that is guarded. -/
theorem guarded_check_bind {condition : Kernel → Except Refusal α} {next : α → Handler β}
    (later : ∀ value, (next value).Guarded) : (check condition >>= next).Guarded := by
  intro kernel after refusal refused
  rw [check_bind] at refused
  cases checked : condition kernel with
  | ok value =>
      rw [checked] at refused
      exact later value kernel after refusal refused
  | error other =>
      rw [checked] at refused
      cases refused
      rfl

/-- What cannot be refused may come after all that is guarded. -/
theorem Guarded.bind_writes {first : Handler α} {next : α → Handler β} (guarded : first.Guarded)
    (later : ∀ value, (next value).Writes) : (first >>= next).Guarded := by
  intro kernel after refusal refused
  change EStateM.bind first next kernel = _ at refused
  unfold EStateM.bind at refused
  cases outcome : first kernel with
  | ok value between =>
      obtain ⟨last, other, written⟩ := later value between
      rw [outcome] at refused
      cases written.symm.trans refused
  | error other between =>
      rw [outcome] at refused
      cases refused
      exact guarded kernel after refusal outcome

end Handler

namespace Kernel

open Handler

theorem writes_takeHandle (asked : Handle) : (takeHandle asked).Writes := by
  unfold takeHandle
  split
  · exact fun kernel => ⟨_, _, rfl⟩
  · exact writes_pure asked

theorem guarded_newQdisc (flags : UInt16) (request : TrafficRequest) :
    (newQdisc flags request).Guarded := by
  refine guarded_check_bind fun _ => ?_
  cases request.kind with
  | none => exact guarded_throw _
  | some kind =>
      refine guarded_check_bind fun attached => guarded_check_bind fun plan => ?_
      cases plan with
      | change => exact (writes_modify _).guarded
      | create =>
          dsimp only
          split
          · exact guarded_throw _
          · split
            · exact guarded_throw _
            · have removes := fun handle => (writes_modify
                (·.remove request.record.place.link (attached.toList.map (·.place.handle)))).bind
                fun _ => writes_modify
                  (·.withQdisc ⟨{ request.record.place with handle }, kind, request.options⟩)
              exact ((writes_takeHandle _).bind removes).guarded

theorem guarded_deleteQdisc (request : TrafficRequest) : (deleteQdisc request).Guarded := by
  refine guarded_check_bind fun _ => ?_
  dsimp only
  split
  · exact guarded_throw _
  · refine guarded_check_bind fun attached => ?_
    cases attached with
    | none => exact guarded_throw _
    | some qdisc =>
        dsimp only
        split
        · exact guarded_throw _
        · split
          · exact guarded_throw _
          · refine (Writes.bind (writes_modify _) fun _ => ?_).guarded
            split
            · exact writes_modify _
            · exact writes_pure ()

theorem guarded_newClass (flags : UInt16) (request : TrafficRequest) :
    (newClass flags request).Guarded := by
  refine guarded_check_bind fun target => guarded_check_bind fun present => ?_
  split
  · split
    · exact guarded_throw _
    · exact (writes_modify _).guarded
  · split
    · exact guarded_throw _
    · exact guarded_check_bind fun _ => (writes_modify _).guarded

theorem guarded_deleteClass (request : TrafficRequest) : (deleteClass request).Guarded := by
  refine guarded_check_bind fun target => guarded_check_bind fun _ => ?_
  exact (Writes.bind (writes_modify _) fun _ => writes_modify _).guarded

/-- Whatever the kernel refuses, it has written nothing. -/
theorem guarded_respond (request : Request) : (respond request).Guarded := by
  have reports : ∀ _ : Unit, (pure [] : Handler (List Report)).Writes := fun _ => writes_pure _
  unfold respond
  dsimp only
  split
  · exact guarded_check_bind fun _ => (writes_pure _).guarded
  split
  · exact guarded_check_bind fun _ => (guarded_newQdisc _ _).bind_writes reports
  split
  · exact guarded_check_bind fun _ => (guarded_deleteQdisc _).bind_writes reports
  split
  · exact guarded_check _
  split
  · exact guarded_check_bind fun _ => (guarded_newClass _ _).bind_writes reports
  split
  · exact guarded_check_bind fun _ => (guarded_deleteClass _).bind_writes reports
  split
  · exact guarded_check_bind fun _ => guarded_check _
  · exact guarded_throw _

end Kernel

/-! ## Requests that ask -/

namespace Handler

variable {α β : Type}

/-- Whether nothing is written even if there is no refusal. -/
def Reads (handler : Handler α) : Prop :=
  ∀ (kernel after : Kernel) (value : α), handler kernel = .ok value after → after = kernel

theorem reads_pure (value : α) : Reads (pure value : Handler α) := by
  intro kernel after other done
  cases done
  rfl

theorem reads_throw (refusal : Refusal) : Reads (throw refusal : Handler α) := by
  intro kernel after other done
  cases done

theorem reads_check (condition : Kernel → Except Refusal α) : (check condition).Reads := by
  intro kernel after value done
  unfold check at done
  split at done
  · cases done
    rfl
  · cases done

theorem reads_check_bind {condition : Kernel → Except Refusal α} {next : α → Handler β}
    (later : ∀ value, (next value).Reads) : (check condition >>= next).Reads := by
  intro kernel after value done
  obtain ⟨found, _, done⟩ := check_bind_eq_ok.mp done
  exact later found kernel after value done

end Handler

namespace Kernel

open Handler

theorem reads_respond {request : Request}
    (asks : request.type = MessageType.getLink ∨ request.type = MessageType.getQdisc ∨
      request.type = MessageType.getClass) : (respond request).Reads := by
  unfold respond
  dsimp only
  rcases asks with type | type | type
  · rw [type]
    exact reads_check_bind fun report => reads_pure [report]
  · rw [type]
    change (if MessageType.getQdisc = MessageType.getQdisc ∧ _ then _ else
      (throw .unsupported : Handler (List Report))).Reads
    split
    · exact reads_check _
    · exact reads_throw _
  · rw [type]
    change (if MessageType.getClass = MessageType.getClass ∧ _ then _ else
      (throw .unsupported : Handler (List Report))).Reads
    split
    · exact reads_check_bind fun _ => reads_check _
    · exact reads_throw _

end Kernel

end TrafficShaping
