import Persona.Json.Order

/-!
# Comparing numbers

Whatever their shape, two numbers are compared by their exact values, and a number cannot be
compared with anything that is none.

Main statements: `compares_of_quantity?`, `compares_of_isSome_ne`.
-/

namespace Persona.Json

variable {a b : Json} {x y : Quantity}

/-- Numbers compare by their exact values; with what is not a number nothing holds. -/
theorem compares_of_quantity? (ha : a.quantity? = some x) (hb : b.quantity? = some y)
    (sign : Sign) : compares sign a b = .ok ((x.compare? y).any sign.holds) := by
  have hnumbers : a.compareNumbers? b = some (x.compare? y) := by simp [compareNumbers?, ha, hb]
  unfold compares
  split
  · cases ha
  · cases ha
  · rw [hnumbers]
    cases x.compare? y <;> rfl

theorem compares_int (sign : Sign) (m n : Int) :
    compares sign (.int m) (.int n) = .ok (sign.holds (compare m n)) :=
  compares_of_quantity? (x := .whole m) (y := .whole n) rfl rfl sign

/-- A number has no order with anything else. -/
theorem compares_of_isSome_ne (h : a.quantity?.isSome ≠ b.quantity?.isSome) (sign : Sign) :
    compares sign a b = .error (.notOrdered sign.text a.kindName b.kindName) := by
  have hnumbers : a.compareNumbers? b = none := by
    cases ha : a.quantity? <;> cases hb : b.quantity? <;> simp_all [compareNumbers?]
  unfold compares
  split
  · exact absurd rfl h
  · exact absurd rfl h
  · rw [hnumbers]

end Persona.Json
