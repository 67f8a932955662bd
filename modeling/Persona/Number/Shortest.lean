import Persona.Number.Binary

/-!
# Shortest decimals

The fewest decimal digits that read back as the same double. For one digit, two digits and so on,
the two neighbours of the value on that decimal grid are tried; the first grid with a hit wins,
of two hits the nearer one, and of two equally near ones the even one.
-/

namespace Persona.Number

/-- The decimal `0.d₁d₂… · 10 ^ point`, without zeros at the end of the digits. -/
structure Decimal where
  digits : List Nat
  point : Int
  deriving DecidableEq, Repr

/-- The decimal digits of a whole number, most significant first; none for zero. -/
def digitsOf (n : Nat) : List Nat :=
  if n = 0 then [] else digitsOf (n / 10) ++ [n % 10]
termination_by n
decreasing_by omega

/-- `m · 2 ^ e < 10 ^ k`, in whole numbers. -/
def belowPower (m : Nat) (e k : Int) : Bool :=
  m * twoPow e.toNat * tenPow (-k).toNat < tenPow k.toNat * twoPow (-e).toNat

/-- The least `k` with `m · 2 ^ e < 10 ^ k`, for `m` above zero. The logarithm of two is a little
below `30103 / 100000`, so the estimate is off by two at most. -/
def decimalPoint (m : Nat) (e : Int) : Int :=
  let guess : Int := ((m.log2 : Int) + e) * 30103 / 100000
  if belowPower m e guess then guess
  else if belowPower m e (guess + 1) then guess + 1
  else guess + 2

/-- The decimal of `n` digits nearest to `m · 2 ^ e` that reads back as it, if there is one. -/
def candidate? (m : Nat) (e : Int) (point : Int) (n : Nat) : Option Nat :=
  let g := point - n
  -- quarters of a unit in the last place of the mantissa
  let e' := e - 2
  let value := 4 * m
  let low := if m == twoPow 52 && -1074 < e then value - 1 else value - 2
  let high := value + 2
  let p := tenPow g.toNat * twoPow (-e').toNat
  let q := tenPow (-g).toNat * twoPow e'.toNat
  let inside (d : Nat) : Bool :=
    if m % 2 == 0 then low * q ≤ d * p && d * p ≤ high * q
    else low * q < d * p && d * p < high * q
  let below := value * q / p
  let above := below + 1
  let toBelow := value * q - below * p
  let toAbove := above * p - value * q
  match inside below, inside above with
  | true, true =>
    some (if toBelow < toAbove || (toBelow == toAbove && below % 2 == 0) then below else above)
  | true, false => some below
  | false, true => some above
  | false, false => none

/-- The first grid, from `n` digits on, that holds a candidate. -/
def searchGrid (m : Nat) (e : Int) (point : Int) : Nat → Nat → Nat × Nat
  | 0, n => (n, wholePart m e)
  | fuel + 1, n =>
    match candidate? m e point n with
    | some d => (n, d)
    | none => searchGrid m e point fuel (n + 1)

/-- The shortest decimal that reads back as `m · 2 ^ e`. -/
def shortest (m : Nat) (e : Int) : Decimal :=
  if m == 0 then ⟨[], 0⟩
  else
    let point := decimalPoint m e
    let (n, d) := searchGrid m e point 17 1
    let digits := digitsOf d
    ⟨(digits.reverse.dropWhile (· == 0)).reverse, point + digits.length - n⟩

end Persona.Number
