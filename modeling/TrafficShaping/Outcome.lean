/-!
Outcomes: a value or the reason why there is none. The lemmas take a sequence of steps apart at the
point where it has succeeded.
-/

namespace TrafficShaping.Outcome

variable {ε α β : Type}

/-- A sequence of two steps succeeds exactly when both do, the second on the value of the first. -/
theorem bind_eq_ok {first : Except ε α} {next : α → Except ε β} {b : β} :
    first >>= next = .ok b ↔ ∃ a, first = .ok a ∧ next a = .ok b := by
  cases first with
  | error e => exact ⟨fun h => (nomatch h), fun ⟨_, h, _⟩ => (nomatch h)⟩
  | ok a => exact ⟨fun h => ⟨a, rfl, h⟩, fun ⟨_, h, hb⟩ => Except.ok.inj h ▸ hb⟩

/-- A mapped outcome is a value exactly when the outcome is, and then it is the image. -/
theorem map_eq_ok {outcome : Except ε α} {f : α → β} {b : β} :
    outcome.map f = .ok b ↔ ∃ a, outcome = .ok a ∧ f a = b := by
  cases outcome with
  | error e => exact ⟨fun h => (nomatch h), fun ⟨_, h, _⟩ => (nomatch h)⟩
  | ok a =>
      refine ⟨fun h => ⟨a, rfl, Except.ok.inj h⟩, fun ⟨_, h, hb⟩ => ?_⟩
      cases h
      exact congrArg Except.ok hb

theorem exists_map_eq_ok {outcome : Except ε α} {f : α → β} (known : ∃ a, outcome = .ok a) :
    ∃ b, outcome.map f = .ok b := by
  obtain ⟨a, rfl⟩ := known
  exact ⟨f a, rfl⟩

end TrafficShaping.Outcome
