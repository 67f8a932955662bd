/-!
# Doubles taken apart

A double is a sign with a whole mantissa times a power of two. Floors, cuts and exact quotients
are computed on those parts in whole numbers.
-/

namespace Persona.Number

/-- A power of two. -/
def twoPow (n : Nat) : Nat := Nat.pow 2 n

/-- A power of ten. -/
def tenPow (n : Nat) : Nat := Nat.pow 10 n

/-- What a double stands for. -/
inductive Parts where
  | nan
  | infinite (negative : Bool)
  /-- The value `± mantissa · 2 ^ exponent`. -/
  | finite (negative : Bool) (mantissa : Nat) (exponent : Int)
  deriving DecidableEq, Repr

def parts (x : Float) : Parts :=
  let bits := x.toBits.toNat
  let negative := bits / twoPow 63 == 1
  let exponent : Nat := bits / twoPow 52 % 2048
  let fraction := bits % twoPow 52
  if exponent == 2047 then
    if fraction == 0 then .infinite negative else .nan
  else if exponent == 0 then .finite negative fraction (-1074)
  else .finite negative (fraction + twoPow 52) ((exponent : Int) - 1075)

/-- The whole part of `m · 2 ^ e`. -/
def wholePart (m : Nat) (e : Int) : Nat :=
  if 0 ≤ e then m * twoPow e.toNat else m / twoPow (-e).toNat

/-- The greatest whole number not above `x`; zero for what is not finite. -/
def floor (x : Float) : Int :=
  match parts x with
  | .finite false m e => wholePart m e
  | .finite true m e =>
    let w := wholePart m e
    if 0 ≤ e || w * twoPow (-e).toNat == m then -(w : Int) else -(w : Int) - 1
  | _ => 0

/-- Why a double has no whole part. -/
inductive CutError where
  | notANumber
  | infinite
  deriving DecidableEq, Repr

/-- The whole part of a double, cut toward zero. -/
def cut (x : Float) : Except CutError Int :=
  match parts x with
  | .nan => .error .notANumber
  | .infinite _ => .error .infinite
  | .finite false m e => .ok (wholePart m e)
  | .finite true m e => .ok (-(wholePart m e : Int))

/-- `num / den` in units of `2 ^ e`, rounded to the nearest whole number, a half to the even
one. -/
def roundedUnits (num den : Nat) (e : Int) : Nat :=
  let n := num * twoPow (-e).toNat
  let d := den * twoPow e.toNat
  let q := n / d
  let r := n % d
  if d < 2 * r || (d == 2 * r && q % 2 == 1) then q + 1 else q

/-- The exponent at which `num / den` has a mantissa of 53 bits, or the least one there is. -/
def ratioExponent (num den : Nat) : Int :=
  let e : Int := (num.log2 : Int) - den.log2 - 52
  let small := num * twoPow (-e).toNat < den * twoPow e.toNat * twoPow 52
  max (if small then e - 1 else e) (-1074)

/-- The double nearest to `± num / den`, a half going to the even mantissa; too large a quotient
is infinite. -/
def ofRatio (negative : Bool) (num den : Nat) : Float :=
  let sign := if negative then twoPow 63 else 0
  if num == 0 then Float.ofBits (UInt64.ofNat sign)
  else
    let e := ratioExponent num den
    let bits := (e + 1074).toNat * twoPow 52 + roundedUnits num den e
    Float.ofBits (UInt64.ofNat (sign + min bits (2047 * twoPow 52)))

def isInfinite (x : Float) : Bool :=
  match parts x with
  | .infinite _ => true
  | _ => false

/-- The nearest double to a whole number. -/
def ofInt (n : Int) : Float := ofRatio (n < 0) n.natAbs 1

/-- A whole number against the exact value of a double; none against what is not a number. -/
def compareWhole (n : Int) (x : Float) : Option Ordering :=
  match parts x with
  | .nan => none
  | .infinite negative => some (if negative then .gt else .lt)
  | .finite negative m e =>
    let v : Int := if negative then -(m : Int) else m
    some (compare (n * twoPow (-e).toNat) (v * twoPow e.toNat))

/-- One double against another; none if either is not a number. -/
def compareReal (x y : Float) : Option Ordering :=
  if x < y then some .lt
  else if y < x then some .gt
  else if x == y then some .eq
  else none

end Persona.Number
