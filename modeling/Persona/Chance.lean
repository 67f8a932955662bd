import Persona.Number.Binary

/-!
# Chance

Random numbers come from a list that is used in order and then again from its start, for ever. A
`Chance` computation takes as many of them as it needs.
-/

namespace Persona

/-- Numbers from zero up to, but not including, one, and how many of them were taken. -/
structure Draws where
  numbers : List Float
  taken : Nat := 0

abbrev Chance := StateM Draws

namespace Chance

/-- The next random number. -/
def draw : Chance Float := fun d =>
  (d.numbers.getD (d.taken % d.numbers.length) 0.0, { d with taken := d.taken + 1 })

/-- A whole number from zero up to, but not including, `n`. -/
def below (n : Nat) : Chance Int := do
  return Number.floor ((← draw) * Number.ofInt n)

/-- A whole number from `a` to `b`, both included. -/
def between (a b : Int) : Chance Int := do
  return a + (← below (b - a + 1).toNat)

/-- The element of a list at a random place. -/
def pick {α : Type} (first : α) (rest : List α) : Chance α := do
  let i ← below (rest.length + 1)
  return (first :: rest).getD i.toNat first

/-- True with the given probability. -/
def happens (probability : Float) : Chance Bool := do
  return (← draw) < probability

/-- A number around `mean`, at most four times `deviation` away. -/
def around (mean deviation : Float) : Chance Float := do
  return mean + deviation * (8.0 * (← draw) - 4.0)

/-- Whatever is drawn, the element picked is one of the list. -/
theorem pick_mem {α : Type} (first : α) (rest : List α) (d : Draws) :
    (pick first rest d).1 ∈ first :: rest := by
  show (first :: rest).getD ((below (rest.length + 1)) d).1.toNat first ∈ first :: rest
  generalize ((below (rest.length + 1)) d).1 = i
  rw [List.getD_eq_getElem?_getD]
  cases h : (first :: rest)[i.toNat]? with
  | none => simp
  | some a => exact List.mem_of_getElem? h

end Chance

end Persona
