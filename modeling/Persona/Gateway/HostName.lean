import Persona.Gateway.HostLetter
import Persona.Gateway.Punycode
import Persona.Gateway.Normal
import Persona.Text.Quoted

/-!
# Names of hosts

The labels of a name stand between dots. A label with letters that are not plain is sent in plain
ones: its letters are made alike, and it is written in Punycode behind a sign that says so. Reading
goes back, and a label must be what its text would be sent as.
-/

namespace Persona.Gateway

/-- What is wrong with the name of a host. -/
inductive HostError where
  /-- A label is empty or too long. -/
  | labelSize
  /-- The last label is too long. -/
  | lastLabelSize
  | forbidden (point : Nat)
  /-- Letters of both directions of writing are in one label. -/
  | mixed
  /-- A label that goes from right to left does not start and end so. -/
  | ends
  /-- A label with other letters starts with the sign of encoded ones. -/
  | sign
  | punycode (error : Punycode.Error)
  /-- A label reads as a text that is sent in another way. -/
  | roundTrip (label back : String)
  deriving DecidableEq, Repr

namespace HostError

def message : HostError → String
  | labelSize => "label empty or too long"
  | lastLabelSize => "label too long"
  | forbidden point => "Invalid character " ++ Text.quote (Text.ofPoints [point])
  | mixed => "Violation of BIDI requirement 2"
  | ends => "Violation of BIDI requirement 3"
  | sign => "Label starts with ACE prefix"
  | punycode e => "decoding with 'punycode' codec failed (UnicodeError: " ++ e.message ++ ")"
  | roundTrip label back =>
    "('IDNA does not round-trip', b" ++ Text.quote label ++ ", b" ++ Text.quote back ++ ")"

end HostError

namespace HostName

/-- The labels of a name, which dots of several scripts divide. -/
def labels : List Nat → List (List Nat)
  | [] => [[]]
  | p :: rest =>
    if [0x2e, 0x3002, 0xff0e, 0xff61].contains p then [] :: labels rest
    else match labels rest with
      | label :: others => (p :: label) :: others
      | [] => [[p]]

def isPlain (label : List Nat) : Bool := label.all (· < 128)

def checkSize (label : List Nat) : Except HostError (List Nat) :=
  if label.isEmpty || 64 ≤ label.length then .error .labelSize else .ok label

/-- The sign before a label in Punycode. -/
def encodedSign : List Nat := "xn--".toList.map Char.toNat

/-- A label with its letters made alike. -/
def prepare (label : List Nat) : Except HostError (List Nat) := do
  let label := normalForm ((label.filter fun p => !inAny dropped p).flatMap smallForm)
  match label.find? (inAny forbidden) with
  | some p => throw (.forbidden p)
  | none => pure ()
  let fromRight := inAny rightToLeft
  if label.any fromRight then
    if label.any (inAny leftToRight) then throw .mixed
    unless label.head?.any fromRight && label.getLast?.any fromRight do throw .ends
  return label

/-- A label in plain letters. -/
def plainLabel (label : List Nat) : Except HostError (List Nat) := do
  if isPlain label then checkSize label
  else
    let label ← prepare label
    if isPlain label then checkSize label
    else if encodedSign.isPrefixOf label then throw .sign
    else checkSize (encodedSign ++ (Punycode.encode label).map Char.toNat)

/-- The text of a label in plain letters. -/
def readableLabel (label : List Nat) : Except HostError (List Nat) := do
  if encodedSign.isPrefixOf label then
    let readable ← (Punycode.decode ((label.drop 4).map Char.ofNat)).mapError .punycode
    let back ← plainLabel readable
    let given := Text.ofPoints label
    if Text.lower given == Text.ofPoints back then return readable
    else throw (.roundTrip given (Text.ofPoints back))
  else return label

def joinLabels (ls : List (List Nat)) : List Nat := [0x2e].intercalate ls

/-- A name in plain letters. A name that is plain may be anything between its dots, and nothing after
the last one. -/
def plain (name : String) : Except HostError String := do
  let points := Text.points name
  let parts := labels points
  if isPlain points then
    discard (parts.dropLast.mapM checkSize)
    if 64 ≤ (parts.getLastD []).length then throw .lastLabelSize
    return name
  else
    let ended := (parts.getLastD []).isEmpty
    let sent ← (if ended then parts.dropLast else parts).mapM plainLabel
    return Text.ofPoints (joinLabels (if ended then sent ++ [[]] else sent))

/-- The text of a name. One that is not in plain letters is its own text. -/
def readable (name : String) : Except HostError String := do
  let points := Text.points name
  if isPlain points then return Text.ofPoints (joinLabels (← (labels points).mapM readableLabel))
  else return name

end HostName

end Persona.Gateway
