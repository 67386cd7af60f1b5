/-!
# Computations that can fail

* `Except.bind_eq_ok_iff`: one computation after another succeeds exactly when both do;
* `Except.bind_ne_error`: a fault that neither of them has does not come of both;
* `Except.ok_of_toOption`: a computation that gives a value succeeds.
-/

namespace GradeRelay.Except

variable {ε α β : Type} {x : Except ε α} {f : α → Except ε β}

@[simp]
theorem bind_eq_ok_iff {b : β} : x >>= f = .ok b ↔ ∃ a, x = .ok a ∧ f a = .ok b := by
  cases x <;> simp [bind, Except.bind]

theorem bind_ne_error {e : ε} (hx : x ≠ .error e) (hf : ∀ a, f a ≠ .error e) :
    x >>= f ≠ .error e := by
  cases x with
  | error e' => exact fun h => hx (by cases h; rfl)
  | ok a => exact hf a

theorem ok_of_toOption {a : α} (h : x.toOption = some a) : x = .ok a := by
  cases x with
  | error e => cases h
  | ok b => exact congrArg _ (Option.some.inj h)

end GradeRelay.Except
