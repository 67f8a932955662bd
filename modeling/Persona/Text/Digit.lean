import Persona.Text.Blank

/-!
# Digits and whole numbers

Decimal digits of every script and the reading of a whole number: blanks around it, one sign,
digits with single underscores between them.
-/

namespace Persona.Text

/-- The zeros of the decimal scripts, ascending; nine more digits follow each. -/
def digitZeros : List Nat :=
  [0x30, 0x660, 0x6f0, 0x7c0, 0x966, 0x9e6, 0xa66, 0xae6, 0xb66, 0xbe6, 0xc66, 0xce6, 0xd66,
   0xde6, 0xe50, 0xed0, 0xf20, 0x1040, 0x1090, 0x17e0, 0x1810, 0x1946, 0x19d0, 0x1a80, 0x1a90,
   0x1b50, 0x1bb0, 0x1c40, 0x1c50, 0xa620, 0xa8d0, 0xa900, 0xa9d0, 0xa9f0, 0xaa50, 0xabf0, 0xff10,
   0x104a0, 0x10d30, 0x11066, 0x110f0, 0x11136, 0x111d0, 0x112f0, 0x11450, 0x114d0, 0x11650,
   0x116c0, 0x11730, 0x118e0, 0x11950, 0x11c50, 0x11d50, 0x11da0, 0x16a60, 0x16ac0, 0x16b50,
   0x1d7ce, 0x1d7d8, 0x1d7e2, 0x1d7ec, 0x1d7f6, 0x1e140, 0x1e2f0, 0x1e950, 0x1fbf0]

/-- The value of a decimal digit. -/
def digitValue? (c : Char) : Option Nat :=
  (digitZeros.find? fun z => z ≤ c.toNat && c.toNat ≤ z + 9).map (c.toNat - ·)

def isDigit (c : Char) : Bool := (digitValue? c).isSome

/-- Digits that do not make up numbers, such as raised and circled ones. -/
def markedDigitRanges : List (Nat × Nat) :=
  [(0xb2, 0xb3), (0xb9, 0xb9), (0x1369, 0x1371), (0x19da, 0x19da), (0x2070, 0x2070),
   (0x2074, 0x2079), (0x2080, 0x2089), (0x2460, 0x2468), (0x2474, 0x247c), (0x2488, 0x2490),
   (0x24ea, 0x24ea), (0x24f5, 0x24fd), (0x24ff, 0x24ff), (0x2776, 0x277e), (0x2780, 0x2788),
   (0x278a, 0x2792), (0x10a40, 0x10a43), (0x10e60, 0x10e68), (0x11052, 0x1105a),
   (0x1f100, 0x1f10a)]

/-- A digit of whatever form. -/
def isAnyDigit (c : Char) : Bool := isDigit c || inRanges markedDigitRanges c

/-- A blank around a number. Of the ASCII controls only tab to carriage return count. -/
def isNumberBlank (c : Char) : Bool :=
  isBlank c && !(0x1c ≤ c.toNat && c.toNat ≤ 0x1f)

/-- A character of a group of digits. -/
def isGroupChar (c : Char) : Bool := isDigit c || c == '_'

/-- The digits of a group, with single underscores allowed between two of them. -/
def digitGroup? : List Char → Option (List Nat)
  | [] => none
  | [c] => (digitValue? c).map ([·])
  | c :: '_' :: rest => do
    let d ← digitValue? c
    let ds ← digitGroup? rest
    return d :: ds
  | c :: rest => do
    let d ← digitValue? c
    let ds ← digitGroup? rest
    return d :: ds

/-- The value of digits, most significant first. -/
def digitsValue (ds : List Nat) : Nat :=
  ds.foldl (fun n d => 10 * n + d) 0

/-- The most digits a whole number may be written with. -/
def digitLimit : Nat := 4300

/-- How the reading of a whole number fails. -/
inductive IntegerError where
  /-- The text is not a whole number. -/
  | malformed (text : String)
  /-- The number has more digits than are read. -/
  | tooLong (digits : Nat)
  deriving DecidableEq, Repr

/-- Read a whole number. Too many digits are noticed before what follows them. -/
def readInt (s : String) : Except IntegerError Int :=
  let cs := trimChars isNumberBlank s.toList
  let (negative, body) := match cs with
    | '-' :: rest => (true, rest)
    | '+' :: rest => (false, rest)
    | _ => (false, cs)
  match digitGroup? (body.takeWhile isGroupChar) with
  | none => .error (.malformed s)
  | some ds =>
    if digitLimit < ds.length then .error (.tooLong ds.length)
    else if !(body.dropWhile isGroupChar).isEmpty then .error (.malformed s)
    else .ok (if negative then -(digitsValue ds : Int) else digitsValue ds)

end Persona.Text
