import Persona.Number.Numeral
import Persona.Text.Digit

/-!
# Reading real numbers

A real number as it may be written: blanks around it, one sign, and then digits with a point among
them and a power of ten, or else a word for infinity or for what is not a number. Digits are those
of every script, with single underscores between two of them.
-/

namespace Persona.Number

/-- A real number as written. What is not a number keeps its sign. -/
inductive Reading where
  | nan (negative : Bool)
  | infinite (negative : Bool)
  /-- The value `± digits · 10 ^ exponent`. -/
  | decimal (negative : Bool) (digits : List Nat) (exponent : Int)
  deriving DecidableEq, Repr

namespace Reading

/-- A sign, and what follows it. -/
def takeSign : List Char → Bool × List Char
  | '-' :: cs => (true, cs)
  | '+' :: cs => (false, cs)
  | cs => (false, cs)

/-- A group of digits that may be left out, and what follows it. -/
def takeGroup? (cs : List Char) : Option (List Nat × List Char) := do
  let group := cs.takeWhile Text.isGroupChar
  let ds ← if group.isEmpty then some [] else Text.digitGroup? group
  return (ds, cs.dropWhile Text.isGroupChar)

/-- The digits after the point, if there is one, and what follows them. -/
def takeFraction? : List Char → Option (List Nat × List Char)
  | '.' :: cs => takeGroup? cs
  | cs => some ([], cs)

/-- The power of ten at the end. -/
def power? : List Char → Option Int
  | [] => some 0
  | c :: cs =>
    if c == 'e' || c == 'E' then
      let (negative, ds) := takeSign cs
      (Text.digitGroup? ds).map fun ds =>
        if negative then -(Text.digitsValue ds : Int) else Text.digitsValue ds
    else none

/-- A number in digits. -/
def decimal? (negative : Bool) (cs : List Char) : Option Reading := do
  let (whole, cs) ← takeGroup? cs
  let (fraction, cs) ← takeFraction? cs
  let power ← power? cs
  if whole.isEmpty && fraction.isEmpty then none
  else some (.decimal negative (whole ++ fraction) (power - fraction.length))

/-- Read a real number. -/
def read? (s : String) : Option Reading :=
  let (negative, cs) := takeSign (Text.trimChars Text.isNumberBlank s.toList)
  let word := String.ofList (cs.map Char.toLower)
  if word == "inf" || word == "infinity" then some (.infinite negative)
  else if word == "nan" then some (.nan negative)
  else decimal? negative cs

/-- The nearest double, as its bits. -/
def bits : Reading → UInt64
  | nan negative => if negative then 0xfff8000000000000 else 0x7ff8000000000000
  | infinite negative => if negative then 0xfff0000000000000 else 0x7ff0000000000000
  | decimal negative digits exponent => (ofDecimal negative digits exponent).toBits

end Reading

end Persona.Number
