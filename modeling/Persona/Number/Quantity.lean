import Persona.Number.Numeral

/-!
# Quantities

A number that is either whole, of any size, or a double. Whole numbers are added and compared
exactly; beside a double, a whole number counts as the nearest double, which it must have.
-/

namespace Persona

inductive Quantity where
  | whole (n : Int)
  | real (x : Float)

/-- How a calculation with quantities fails. -/
inductive CalculationError where
  | integerTooLarge
  | quotientTooLarge
  | divisionByZero
  /-- A double is divided by zero, or a number by a double that is zero. -/
  | realDivisionByZero
  deriving DecidableEq, Repr

namespace CalculationError

def message : CalculationError → String
  | integerTooLarge => "int too large to convert to float"
  | quotientTooLarge => "integer division result too large for a float"
  | divisionByZero => "division by zero"
  | realDivisionByZero => "float division by zero"

end CalculationError

namespace Quantity

/-- The quantity as a double; a whole number that is too large becomes infinite. -/
def toFloat : Quantity → Float
  | whole n => Number.ofInt n
  | real x => x

/-- The quantity as a double; a whole number must not be too large. -/
def toReal : Quantity → Except CalculationError Float
  | whole n =>
    let x := Number.ofInt n
    if Number.isInfinite x then .error .integerTooLarge else .ok x
  | real x => .ok x

def text : Quantity → String
  | whole n => Number.intText n
  | real x => Number.floatText x

/-- The quantity lies below zero. -/
def isNegative : Quantity → Bool
  | whole n => n < 0
  | real x => x < 0.0

/-- How two quantities compare by their exact values; none if one is not a number. -/
def compare? : Quantity → Quantity → Option Ordering
  | whole m, whole n => some (compare m n)
  | whole m, real y => Number.compareWhole m y
  | real x, whole n => (Number.compareWhole n x).map Ordering.swap
  | real x, real y => Number.compareReal x y

/-- `a` lies below `b`. -/
def isBelow (a b : Quantity) : Bool := a.compare? b == some .lt

def add : Quantity → Quantity → Except CalculationError Quantity
  | whole m, whole n => .ok (whole (m + n))
  | a, b => do return real ((← a.toReal) + (← b.toReal))

/-- The quantity times a double. -/
def scale (a : Quantity) (factor : Float) : Except CalculationError Float := do
  return (← a.toReal) * factor

/-- The quotient; of two whole numbers it is exact before it is rounded. -/
def divide : Quantity → Quantity → Except CalculationError Float
  | whole n, whole d =>
    if d == 0 then .error .divisionByZero
    else
      let x := Number.ofRatio ((n < 0) != (d < 0)) n.natAbs d.natAbs
      if Number.isInfinite x then .error .quotientTooLarge else .ok x
  | a, b => do
    let x ← a.toReal
    let y ← b.toReal
    if y == 0.0 then .error .realDivisionByZero else return x / y

/-- So many seconds, in microseconds: exact for a whole number, else the nearest below
`s · 1000000 + 0.5`, which must be finite. -/
def microseconds : Quantity → Except Number.CutError Int
  | whole n => .ok (n * 1000000)
  | real x =>
    let scaled := x * 1000000.0 + 0.5
    match Number.cut scaled with
    | .ok _ => .ok (Number.floor scaled)
    | .error e => .error e

end Quantity

end Persona
