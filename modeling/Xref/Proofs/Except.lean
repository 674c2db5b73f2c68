import Mathlib.Tactic.Common

namespace Xref
variable {ε α β : Type} {result : Except ε α} {a : α}

theorem map_eq_ok {f : α → β} {b : β} : result.map f = .ok b ↔ ∃ a, result = .ok a ∧ f a = b := by
  cases result <;> simp [Except.map]

theorem map_eq_error {f : α → β} {e : ε} : result.map f = .error e ↔ result = .error e := by
  cases result <;> simp [Except.map]

theorem eq_ok_of_toOption (given : result.toOption = some a) : result = .ok a := by
  cases result with
  | error _ => cases given
  | ok _ => exact congrArg _ (Option.some.inj given)

end Xref
