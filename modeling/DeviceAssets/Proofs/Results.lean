import Mathlib.Logic.Basic

/-!
# Results that are values

What has to have gone well for a computation that can fail to give a value.
-/

namespace DeviceAssets

variable {ε ε' α β : Type}

/-- A chain gives a value where all of it does. -/
theorem bind_eq_ok_iff {first : Except ε α} {next : α → Except ε β} {b : β} :
    first >>= next = .ok b ↔ ∃ a, first = .ok a ∧ next a = .ok b := by
  cases first <;> simp [bind, Except.bind]

theorem map_eq_ok_iff {result : Except ε α} {f : α → β} {b : β} :
    result.map f = .ok b ↔ ∃ a, result = .ok a ∧ f a = b := by
  cases result <;> simp [Except.map]

theorem mapError_eq_ok_iff {result : Except ε α} {f : ε → ε'} {a : α} :
    result.mapError f = .ok a ↔ result = .ok a := by
  constructor
  · intro h
    cases result with
    | error e => cases h
    | ok value =>
      cases h
      rfl
  · rintro rfl
    rfl

/-- What every step of a run keeps, the whole run keeps. -/
theorem holds_of_foldlM {step : α → β → Except ε α} {holds : α → Prop}
    (keeps : ∀ {state : α} {event : β} {later : α},
      holds state → step state event = .ok later → holds later)
    {events : List β} {state later : α} (before : holds state)
    (h : events.foldlM step state = .ok later) : holds later := by
  induction events generalizing state with
  | nil =>
    cases h
    exact before
  | cons event rest ih =>
    rw [List.foldlM_cons, bind_eq_ok_iff] at h
    obtain ⟨next, hstep, hrest⟩ := h
    exact ih (keeps before hstep) hrest

theorem toOption_eq_some_iff {result : Except ε α} {a : α} :
    result.toOption = some a ↔ result = .ok a := by
  cases result <;> simp [Except.toOption]

end DeviceAssets
