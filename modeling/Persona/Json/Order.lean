import Persona.Json.Access
import Persona.Number.Quantity

/-!
# Comparing values

Numbers are equal and ordered by their exact value, whether whole or not, and a truth value counts
as one or zero. Texts go by their characters, lists by their first items that differ. Other values
have no order.
-/

namespace Persona.Json

/-- The number that a value is; true counts as one and false as zero. -/
def quantity? : Json → Option Quantity
  | bool b => some (.whole (if b then 1 else 0))
  | int n => some (.whole n)
  | float x => some (.real x)
  | _ => none

/-- The whole number that a value is; true counts as one and false as zero. -/
def whole? : Json → Option Int
  | bool b => some (if b then 1 else 0)
  | int n => some n
  | _ => none

def ofQuantity : Quantity → Json
  | .whole n => int n
  | .real x => float x

/-- How two numbers compare by their exact values; nothing compares with what is not a number. -/
def compareNumbers? (a b : Json) : Option (Option Ordering) :=
  match a.quantity?, b.quantity? with
  | some x, some y => some (x.compare? y)
  | _, _ => none

mutual

/-- Two values are equal: numbers by their value, objects without regard to order. -/
def same : Json → Json → Bool
  | null, null => true
  | str s, str t => s == t
  | arr xs, arr ys => sameItems xs ys
  | obj fs, obj gs => fs.length == gs.length && sameFields fs gs
  | a, b => a.compareNumbers? b == some (some .eq)

def sameItems : List Json → List Json → Bool
  | [], [] => true
  | x :: xs, y :: ys => same x y && sameItems xs ys
  | _, _ => false

def sameFields : List (String × Json) → List (String × Json) → Bool
  | [], _ => true
  | (k, v) :: fs, gs =>
    (match Fields.get? gs k with
     | some w => same v w
     | none => false) && sameFields fs gs

end

/-- Two values are the same when looked up: like `same`, but what is not a number is found by
itself. -/
def sameKey (a b : Json) : Bool :=
  match a, b with
  | float x, float y => x == y || (x != x && y != y)
  | a, b => a.same b

/-- What is asked about the order of two values. -/
inductive Sign where
  | less
  | greater
  | atLeast
  deriving DecidableEq, Repr

namespace Sign

def text : Sign → String
  | less => "<"
  | greater => ">"
  | atLeast => ">="

def holds : Sign → Ordering → Bool
  | less, o => o == .lt
  | greater, o => o == .gt
  | atLeast, o => o != .lt

end Sign

mutual

/-- `a` stands to `b` as the sign says. -/
def compares (sign : Sign) : Json → Json → Except Mismatch Bool
  | str s, str t => .ok (sign.holds (Text.order s t))
  | arr xs, arr ys => comparesItems sign xs ys
  | a, b =>
    match a.compareNumbers? b with
    | some (some order) => .ok (sign.holds order)
    | some none => .ok false
    | none => .error (.notOrdered sign.text a.kindName b.kindName)

/-- The first items that differ decide; of a list and a longer one that starts with it, the longer
one is the greater. -/
def comparesItems (sign : Sign) : List Json → List Json → Except Mismatch Bool
  | [], [] => .ok (sign.holds .eq)
  | [], _ :: _ => .ok (sign.holds .lt)
  | _ :: _, [] => .ok (sign.holds .gt)
  | x :: xs, y :: ys =>
    if same x y then comparesItems sign xs ys else compares sign x y

end

end Persona.Json
