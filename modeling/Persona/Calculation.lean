import Persona.Fault

/-!
# Calculating with values

Sums, products and quotients of values that should be numbers. What is not a number fails in a way
that tells its kind.
-/

namespace Persona.Json

/-- Why there is no sum of a value and another one of a given kind. -/
def noSum (a : Json) (kind : String) : Mismatch :=
  match a with
  | str _ => .notAppendable kind
  | arr _ => .notExtendable kind
  | a => .noOperation "+" a.kindName kind

/-- A sum. -/
def plus (a b : Json) : Except Fault Json :=
  match a.quantity?, b.quantity? with
  | some x, some y => (ofQuantity <$> x.add y).mapError .calculation
  | _, _ => .error (.mismatch (a.noSum b.kindName))

/-- A sum with a double. -/
def plusReal (a : Json) (y : Float) : Except Fault Float :=
  match a.quantity? with
  | some x => ((· + y) <$> x.toReal).mapError .calculation
  | none => .error (.mismatch (a.noSum "float"))

/-- A difference with a double. -/
def minusReal (a : Json) (y : Float) : Except Fault Float :=
  match a.quantity? with
  | some x => ((· - y) <$> x.toReal).mapError .calculation
  | none => .error (.mismatch (.noOperation "-" a.kindName "float"))

/-- A product with a double, asked for by a sign. -/
def scaled (sign : String) (a : Json) (factor : Float) : Except Fault Float :=
  match a.quantity? with
  | some x => (x.scale factor).mapError .calculation
  | none => .error (.mismatch (match a with
    | str _ => .repeatedByReal
    | arr _ => .repeatedByReal
    | a => .noOperation sign a.kindName "float"))

/-- A product with a double. -/
def times (a : Json) (factor : Float) : Except Fault Float := scaled "*" a factor

/-- A share of one as a percentage with so many decimal places. -/
def percent (places : Nat) (a : Json) : Except Fault String :=
  match a.quantity? with
  | some x => (Number.percent places <$> x.toReal).mapError .calculation
  | none => .error (.mismatch (match a with
    | str _ => .noFormatCode "%" a.kindName
    | a => .noFormat a.kindName))

/-- A quotient. -/
def dividedBy (a b : Json) : Except Fault Float :=
  match a.quantity?, b.quantity? with
  | some x, some y => (x.divide y).mapError .calculation
  | _, _ => .error (.mismatch (.noOperation "/" a.kindName b.kindName))

end Persona.Json
