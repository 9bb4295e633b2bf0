/-
**Steps that can fail.**

A sequence of steps succeeds if each of them does, and fails with the failure of the first that does
not.

Main results:

* `ZoneKeeper.bind_eq_ok_iff`, `ZoneKeeper.bind_eq_error_iff` — how two steps succeed and fail;
* `ZoneKeeper.map_eq_ok_iff` — how a step succeeds whose value is mapped.
-/

set_option autoImplicit false

namespace ZoneKeeper

variable {ε α β : Type}

theorem bind_eq_ok_iff {x : Except ε α} {f : α → Except ε β} {b : β} :
    x.bind f = .ok b ↔ ∃ a, x = .ok a ∧ f a = .ok b := by
  cases x with
  | error e => exact iff_of_false (fun h => nomatch h) fun ⟨_, h, _⟩ => nomatch h
  | ok a => simp [Except.bind]

theorem bind_eq_error_iff {x : Except ε α} {f : α → Except ε β} {e : ε} :
    x.bind f = .error e ↔ x = .error e ∨ ∃ a, x = .ok a ∧ f a = .error e := by
  cases x with
  | error e' => simp [Except.bind]
  | ok a => simp [Except.bind]

theorem map_eq_ok_iff {f : α → β} {x : Except ε α} {b : β} :
    x.map f = .ok b ↔ ∃ a, x = .ok a ∧ b = f a := by
  cases x with
  | error e => exact iff_of_false (fun h => nomatch h) fun ⟨_, h, _⟩ => nomatch h
  | ok a => simp [Except.map, eq_comm]

end ZoneKeeper
