import Persona.Text.Digit
import Persona.Text.Lowercase
import Persona.Text.Search

/-!
# Ranges of bytes

A request may ask for a part of a file: from one byte to another, from one byte on, or so many bytes
at the end. Only one range at a time is served.
-/

namespace Persona.Gateway

/-- A range, with its end left out. A negative start counts from the end of the file. -/
structure ByteRange where
  start : Int
  stop : Option Int
  deriving DecidableEq, Repr

namespace ByteRange

/-- A whole number in plain digits, perhaps with a minus sign. -/
def plainInt? (s : String) : Option Int :=
  let s := Text.trim s
  let digits := match s.toList with
    | '-' :: rest => rest
    | cs => cs
  if digits.all Char.isDigit then (Text.readInt s).toOption else none

/-- The range that is written. -/
def item? (s : String) : Option ByteRange :=
  let s := Text.trim s
  match Text.splitOnce s "-" with
  | none => none
  | some ("", _) => (plainInt? s).map fun n => ⟨n, none⟩
  | some (start, stop) => do
    let start ← plainInt? start
    if (Text.trim stop).isEmpty then return ⟨start, none⟩
    let stop ← plainInt? stop
    if start < stop + 1 then return ⟨start, some (stop + 1)⟩ else none

/-- The one range of bytes that a header asks for. -/
def read? (header : String) : Option ByteRange := do
  let (unit, items) ← Text.splitOnce header "="
  match Text.lower (Text.trim unit), Text.split items "," with
  | "bytes", [one] => item? one
  | _, _ => none

/-- The first byte of a range in a file of some size, and the number of bytes. -/
def within? (r : ByteRange) (size : Nat) : Option (Nat × Nat) :=
  let start := if r.stop.isNone && r.start < 0 then r.start + size else r.start
  let stop := r.stop.getD size
  if 0 ≤ start && start < stop && start < size then
    some (start.toNat, (min stop size - start).toNat)
  else none

/-- The part of a file that a header asks for. -/
def part? (header : String) (bytes : List UInt8) : Option (List UInt8) := do
  let (start, count) ← (← read? header).within? bytes.length
  return (bytes.drop start).take count

end ByteRange

end Persona.Gateway
