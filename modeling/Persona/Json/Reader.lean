import Persona.Json.Basic
import Persona.Text.Digit

/-!
# Reading JSON

A reader that takes characters off the front of the text. An error names its cause and how many
code points remained where it was found, so that its place follows from the length of the text.
Beyond the standard, the words `NaN`, `Infinity` and `-Infinity` are numbers, and of two fields
with the same name the later value counts. Values may not lie too deep inside each other.
-/

namespace Persona.Json

/-- Why a text is not JSON. -/
inductive Cause where
  | byteOrderMark
  | value
  | propertyName
  | colon
  | comma
  | extraData
  | unterminated
  | controlCharacter
  | escape
  | unicodeEscape
  deriving DecidableEq, Repr

def Cause.message : Cause → String
  | byteOrderMark => "Unexpected UTF-8 BOM (decode using utf-8-sig)"
  | value => "Expecting value"
  | propertyName => "Expecting property name enclosed in double quotes"
  | colon => "Expecting ':' delimiter"
  | comma => "Expecting ',' delimiter"
  | extraData => "Extra data"
  | unterminated => "Unterminated string starting at"
  | controlCharacter => "Invalid control character at"
  | escape => "Invalid \\escape"
  | unicodeEscape => "Invalid \\uXXXX escape"

/-- A value that holds others. -/
inductive Container where
  | array
  | object
  deriving DecidableEq, Repr

/-- What stops the reader: a fault with so many code points remaining, a whole number with too many
digits, or a value that lies too deep. -/
inductive Stop where
  | fault (cause : Cause) (remaining : Nat)
  | digits (count : Nat)
  | depth (container : Container)
  deriving DecidableEq, Repr

/-- So many values may lie inside each other. -/
def depthLimit : Nat := 980

def fail {α : Type} (cause : Cause) (rest : List Char) : Except Stop α :=
  .error (.fault cause (Text.pointsOf rest).length)

def isBlank (c : Char) : Bool := c == ' ' || c == '\t' || c == '\n' || c == '\r'

def skipBlanks (cs : List Char) : List Char := cs.dropWhile isBlank

def isAsciiDigit (c : Char) : Bool := '0' ≤ c && c ≤ '9'

def asciiDigit (c : Char) : Nat := c.toNat - 48

/-! ## Texts -/

/-- The code unit of four hexadecimal digits. -/
def codeUnit? (a b c d : Char) : Option Nat := do
  let a ← Text.hexValue? a
  let b ← Text.hexValue? b
  let c ← Text.hexValue? c
  let d ← Text.hexValue? d
  return ((a * 16 + b) * 16 + c) * 16 + d

/-- The character of a one-letter escape. -/
def simpleEscape? (c : Char) : Option Char :=
  match c with
  | '"' => some '"'
  | '\\' => some '\\'
  | '/' => some '/'
  | 'b' => some (Char.ofNat 0x8)
  | 'f' => some (Char.ofNat 0xc)
  | 'n' => some '\n'
  | 'r' => some '\r'
  | 't' => some '\t'
  | _ => none

/-- The code units of a text after its opening quote; `start` is all that remained from that quote
on. The digits of an escape must not end the text. -/
def stringUnits (start : List Char) : List Char → Except Stop (List Nat × List Char)
  | [] => fail .unterminated start
  | c :: rest =>
    if c == '"' then .ok ([], rest)
    else if c == '\\' then
      match rest with
      | [] => fail .unterminated start
      | 'u' :: a :: b :: c :: d :: next :: rest' =>
        match codeUnit? a b c d with
        | none => fail .unicodeEscape rest
        | some unit => do
          let (units, rest) ← stringUnits start (next :: rest')
          return (unit :: units, rest)
      | 'u' :: _ => fail .unicodeEscape rest
      | e :: rest' =>
        match simpleEscape? e with
        | none => fail .escape ('\\' :: rest)
        | some ch => do
          let (units, rest) ← stringUnits start rest'
          return (ch.toNat :: units, rest)
    else if c.toNat ≤ 0x1f then fail .controlCharacter (c :: rest)
    else do
      let (units, rest) ← stringUnits start rest
      return (c.toNat :: units, rest)

/-- A text, from the character after its opening quote on. -/
def readString (cs : List Char) : Except Stop (String × List Char) := do
  let (units, rest) ← stringUnits ('"' :: cs) cs
  return (String.ofList (Text.joinUnits units), rest)

/-! ## Numbers -/

/-- The whole part of a number: a zero, or digits that start with another one. -/
def wholeDigits? : List Char → Option (List Char × List Char)
  | '0' :: rest => some (['0'], rest)
  | c :: rest =>
    if isAsciiDigit c then some (c :: rest.takeWhile isAsciiDigit, rest.dropWhile isAsciiDigit)
    else none
  | [] => none

/-- A point with at least one digit after it. -/
def fractionDigits : List Char → Option (List Char) × List Char
  | '.' :: c :: rest =>
    if isAsciiDigit c then
      (some (c :: rest.takeWhile isAsciiDigit), rest.dropWhile isAsciiDigit)
    else (none, '.' :: c :: rest)
  | cs => (none, cs)

/-- An exponent with at least one digit. -/
def exponentPart (cs : List Char) : Option Int × List Char :=
  match cs with
  | c :: rest =>
    if c == 'e' || c == 'E' then
      let (negative, body) := match rest with
        | '-' :: body => (true, body)
        | '+' :: body => (false, body)
        | _ => (false, rest)
      let digits := body.takeWhile isAsciiDigit
      if digits.isEmpty then (none, cs)
      else
        let n : Int := Text.digitsValue (digits.map asciiDigit)
        (some (if negative then -n else n), body.dropWhile isAsciiDigit)
    else (none, cs)
  | [] => (none, cs)

/-- A number at the front of the text. -/
def readNumber (cs : List Char) : Except Stop (Json × List Char) :=
  let (negative, body) := match cs with
    | '-' :: rest => (true, rest)
    | _ => (false, cs)
  match wholeDigits? body with
  | none => fail .value cs
  | some (whole, rest) =>
    let (fraction, rest) := fractionDigits rest
    let (exponent, rest) := exponentPart rest
    match fraction, exponent with
    | none, none =>
      if Text.digitLimit < whole.length then .error (.digits whole.length)
      else
        let n : Int := Text.digitsValue (whole.map asciiDigit)
        .ok (.int (if negative then -n else n), rest)
    | _, _ =>
      let places := fraction.getD []
      .ok (.float (Number.ofDecimal negative ((whole ++ places).map asciiDigit)
        (exponent.getD 0 - places.length)), rest)

/-! ## Values -/

/-- A fixed word at the front of the text. -/
def word? (w : String) (cs : List Char) : Option (List Char) :=
  if w.toList.isPrefixOf cs then some (cs.drop w.length) else none

/-- The words that stand for values. -/
def words : List (String × Json) :=
  [("null", .null), ("true", .bool true), ("false", .bool false),
   ("NaN", .float (Float.ofBits 0x7ff8000000000000)),
   ("Infinity", .float (Float.ofBits 0x7ff0000000000000)),
   ("-Infinity", .float (Float.ofBits 0xfff0000000000000))]

def readWord? (cs : List Char) : Option (Json × List Char) :=
  words.findSome? fun (w, v) => (word? w cs).map (v, ·)

mutual

/-- A value at the front of the text, at most `depth` levels deep. -/
def readValue : Nat → Nat → List Char → Except Stop (Json × List Char)
  | 0, _, cs => fail .value cs
  | _ + 1, _, [] => fail .value []
  | fuel + 1, depth, c :: rest =>
    if c == '"' then do
      let (s, rest) ← readString rest
      return (.str s, rest)
    else if c == '\x7b' then
      match depth, skipBlanks rest with
      | 0, _ => .error (.depth .object)
      | _, '\x7d' :: rest => .ok (.obj [], rest)
      | depth + 1, cs => do
        let (fields, rest) ← readFields fuel depth [] cs
        return (.obj fields, rest)
    else if c == '[' then
      match depth, skipBlanks rest with
      | 0, _ => .error (.depth .array)
      | _, ']' :: rest => .ok (.arr [], rest)
      | depth + 1, cs => do
        let (items, rest) ← readItems fuel depth cs
        return (.arr items, rest)
    else
      match readWord? (c :: rest) with
      | some r => .ok r
      | none => readNumber (c :: rest)

/-- The items up to the closing bracket. -/
def readItems : Nat → Nat → List Char → Except Stop (List Json × List Char)
  | 0, _, cs => fail .value cs
  | fuel + 1, depth, cs => do
    let (x, rest) ← readValue fuel depth cs
    match skipBlanks rest with
    | ']' :: rest => return ([x], rest)
    | ',' :: rest =>
      let (xs, rest) ← readItems fuel depth (skipBlanks rest)
      return (x :: xs, rest)
    | rest => fail .comma rest

/-- The fields up to the closing brace, put one by one into `fields`. -/
def readFields : Nat → Nat → List (String × Json) → List Char →
    Except Stop (List (String × Json) × List Char)
  | 0, _, _, cs => fail .value cs
  | fuel + 1, depth, fields, cs =>
    match cs with
    | '"' :: rest => do
      let (key, rest) ← readString rest
      match skipBlanks rest with
      | ':' :: rest =>
        let (v, rest) ← readValue fuel depth (skipBlanks rest)
        let fields := Fields.put fields key v
        match skipBlanks rest with
        | '\x7d' :: rest => return (fields, rest)
        | ',' :: rest => readFields fuel depth fields (skipBlanks rest)
        | rest => fail .comma rest
      | rest => fail .colon rest
    | cs => fail .propertyName cs

end

/-- One value with nothing but blanks around it. -/
def readWhole (cs : List Char) : Except Stop Json := do
  let (v, rest) ← readValue (2 * cs.length + 2) depthLimit (skipBlanks cs)
  match skipBlanks rest with
  | [] => return v
  | rest => fail .extraData rest

/-- A whole text that holds one value. A mark of the byte order has no place in a text. -/
def readText (cs : List Char) : Except Stop Json :=
  if cs.head? == some (Char.ofNat 0xfeff) then fail .byteOrderMark cs else readWhole cs

/-! ## Errors with their place -/

/-- Why and where a text is not JSON; `offset` counts code points from the start. -/
structure SyntaxError where
  cause : Cause
  offset : Nat
  line : Nat
  column : Nat
  deriving DecidableEq, Repr

inductive DecodeError where
  | malformed (error : SyntaxError)
  | tooManyDigits (count : Nat)
  | tooDeep (container : Container)
  deriving DecidableEq, Repr

/-- The place of an offset: lines and columns count from one. -/
def SyntaxError.locate (cause : Cause) (points : List Nat) (offset : Nat) : SyntaxError :=
  let before := points.take offset
  { cause, offset
    line := before.count '\n'.toNat + 1
    column := (before.reverse.takeWhile (· != '\n'.toNat)).length + 1 }

def SyntaxError.message (e : SyntaxError) : String :=
  e.cause.message ++ ": line " ++ Number.natText e.line ++ " column " ++ Number.natText e.column ++
    " (char " ++ Number.natText e.offset ++ ")"

/-- What stopped the reading of a text, with its place. -/
def DecodeError.ofStop (s : String) : Stop → DecodeError
  | .digits n => .tooManyDigits n
  | .depth container => .tooDeep container
  | .fault cause remaining =>
    .malformed (.locate cause (Text.points s) (Text.size s - remaining))

/-- The value of a text. -/
def decode (s : String) : Except DecodeError Json :=
  (readText s.toList).mapError (.ofStop s)

end Persona.Json
