import TrafficShaping.Kernel.State

/-!
What the kernel does while it serves a request.

A `Handler` checks the state of the kernel and writes to it, and may refuse the request at any
point. A refusal does not take back what was written before it.
-/

namespace TrafficShaping

/-- What the kernel does to serve a request: it ends with a value or a refusal, and in either case
with what has been written by then. -/
abbrev Handler (α : Type) := EStateM Refusal Kernel α

namespace Handler

variable {α β : Type}

/-- A check, which writes nothing. -/
def check (condition : Kernel → Except Refusal α) : Handler α := fun kernel =>
  match condition kernel with
  | .ok value => .ok value kernel
  | .error refusal => .error refusal kernel

theorem check_bind (condition : Kernel → Except Refusal α) (next : α → Handler β)
    (kernel : Kernel) :
    (check condition >>= next) kernel =
      match condition kernel with
      | .ok value => next value kernel
      | .error refusal => .error refusal kernel := by
  change EStateM.bind (check condition) next kernel = _
  unfold EStateM.bind check
  cases condition kernel with
  | ok value => rfl
  | error refusal => rfl

/-- What follows a check is done exactly when the check succeeds. -/
theorem check_bind_eq_ok {condition : Kernel → Except Refusal α} {next : α → Handler β}
    {kernel after : Kernel} {value : β} :
    (check condition >>= next) kernel = .ok value after ↔
      ∃ found, condition kernel = .ok found ∧ next found kernel = .ok value after := by
  rw [check_bind]
  cases condition kernel with
  | ok found => exact ⟨fun h => ⟨found, rfl, h⟩, fun ⟨_, same, h⟩ => Except.ok.inj same ▸ h⟩
  | error refusal => exact ⟨fun h => (nomatch h), fun ⟨_, h, _⟩ => (nomatch h)⟩

end Handler

end TrafficShaping
