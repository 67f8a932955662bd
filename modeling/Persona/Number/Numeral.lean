import Persona.Number.Shortest

/-!
# Numbers as text

How a double is written: shortest digits, positional from four zeros after the point up to
sixteen digits before it, and with an exponent of at least two digits outside. Also fixed places
and percentages, and the reading of a decimal.
-/

namespace Persona.Number

def digitChar (d : Nat) : Char := Char.ofNat (48 + d)

/-- A whole number in decimal. -/
def natText (n : Nat) : String :=
  if n = 0 then "0" else String.ofList ((digitsOf n).map digitChar)

def intText (n : Int) : String :=
  if n < 0 then "-" ++ natText n.natAbs else natText n.natAbs

/-- A decimal in positional or exponent notation. -/
def Decimal.text (d : Decimal) : String :=
  let ds := d.digits.map digitChar
  if d.digits.isEmpty then "0.0"
  else if -4 < d.point && d.point ≤ 16 then
    if d.point ≤ 0 then
      String.ofList (['0', '.'] ++ List.replicate (-d.point).toNat '0' ++ ds)
    else
      let k := d.point.toNat
      let fraction := ds.drop k
      String.ofList (ds.take k ++ List.replicate (k - ds.length) '0' ++ ['.'] ++
        (if fraction.isEmpty then ['0'] else fraction))
  else
    let e := d.point - 1
    let mantissa := match ds with
      | [c] => [c]
      | c :: cs => c :: '.' :: cs
      | [] => []
    let size := (digitsOf e.natAbs).map digitChar
    String.ofList (mantissa ++ ['e', if e < 0 then '-' else '+'] ++
      List.replicate (2 - size.length) '0' ++ size)

/-- A double as the shortest text that reads back. -/
def floatText (x : Float) : String :=
  match parts x with
  | .nan => "nan"
  | .infinite negative => if negative then "-inf" else "inf"
  | .finite negative m e => (if negative then "-" else "") ++ (shortest m e).text

/-- `m · 2 ^ e · 10 ^ places`, rounded to the nearest whole number, a half to the even one. -/
def roundedPlaces (places m : Nat) (e : Int) : Nat :=
  let n := tenPow places * m * twoPow e.toNat
  let d := twoPow (-e).toNat
  let q := n / d
  let r := n % d
  if d < 2 * r || (d == 2 * r && q % 2 == 1) then q + 1 else q

/-- A double rounded to so many decimal places, an exact half to the even digit. -/
def fixed (places : Nat) (x : Float) : String :=
  match parts x with
  | .nan => "nan"
  | .infinite negative => if negative then "-inf" else "inf"
  | .finite negative m e =>
    let units := roundedPlaces places m e
    let fraction := natText (units % tenPow places)
    (if negative then "-" else "") ++ natText (units / tenPow places) ++
      (if places == 0 then ""
       else "." ++ String.ofList (List.replicate (places - fraction.length) '0') ++ fraction)

/-- A share of one as a percentage. -/
def percent (places : Nat) (x : Float) : String := fixed places (x * 100.0) ++ "%"

/-- The double nearest to `± digits · 10 ^ exponent`. Exponents far outside the range of doubles
are settled by the number of digits. -/
def ofDecimal (negative : Bool) (digits : List Nat) (exponent : Int) : Float :=
  let ds := digits.dropWhile (· == 0)
  let n := ds.foldl (fun n d => 10 * n + d) 0
  let size := (ds.length : Int) + exponent
  if n == 0 || size < -400 then ofRatio negative 0 1
  else if 400 < size then ofRatio negative (tenPow 400) 1
  else ofRatio negative (n * tenPow exponent.toNat) (tenPow (-exponent).toNat)

end Persona.Number
