/-!
Computations that may fail: what their success says of the steps that they take.
-/

namespace ClusterUpgrade

variable {ε α β : Type}

theorem exists_of_bind_eq_ok {result : Except ε α} {next : α → Except ε β} {value : β}
    (h : result >>= next = .ok value) : ∃ found, result = .ok found ∧ next found = .ok value := by
  cases result with
  | error error => cases h
  | ok found => exact ⟨found, rfl, h⟩

theorem exists_of_map_eq_ok {result : Except ε α} {f : α → β} {value : β}
    (h : result.map f = .ok value) : ∃ found, result = .ok found ∧ f found = value := by
  cases result with
  | error error => cases h
  | ok found => exact ⟨found, rfl, Except.ok.inj h⟩

theorem ok_of_toOption_eq_some {result : Except ε α} {value : α}
    (h : result.toOption = some value) : result = .ok value := by
  cases result with
  | error error => cases h
  | ok found =>
    cases h
    rfl

end ClusterUpgrade
