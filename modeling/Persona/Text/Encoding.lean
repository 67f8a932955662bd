import Persona.Number.Numeral
import Persona.Text.CodePoint
import Persona.Text.Quoted

/-!
# Texts in bytes

A text is sent in bytes, mostly as UTF-8. A JSON text may also come in units of two or four bytes:
as it starts with a plain character, the zeros among its first bytes give that away. Bytes that hold
no text have a first flaw, with a place and a cause.
-/

namespace Persona.Text

/-- The bytes of a text; none if halves of pairs are in it. -/
def bytes? (s : String) : Option (List UInt8) :=
  if (halves? s).isSome then none
  else some (String.ofList ((points s).map Char.ofNat)).toUTF8.data.toList

inductive Encoding where
  | utf8
  | utf16 (highFirst : Bool)
  | utf32 (highFirst : Bool)
  deriving DecidableEq, Repr

def Encoding.name : Encoding → String
  | utf8 => "utf-8"
  | utf16 highFirst => if highFirst then "utf-16-be" else "utf-16-le"
  | utf32 highFirst => if highFirst then "utf-32-be" else "utf-32-le"

/-- Why some bytes are no character. -/
inductive Flaw where
  | startByte
  | continuation
  | endOfData
  | truncated
  | outOfRange
  deriving DecidableEq, Repr

def Flaw.message : Flaw → String
  | startByte => "invalid start byte"
  | continuation => "invalid continuation byte"
  | endOfData => "unexpected end of data"
  | truncated => "truncated data"
  | outOfRange => "code point not in range(0x110000)"

/-- Some bytes with the code point that they are, or with what is wrong with them. -/
structure Piece where
  bytes : List UInt8
  point : Except Flaw Nat

/-! ## UTF-8 -/

/-- How many bytes go with a first one; none if it cannot be first. -/
def followers? (first : UInt8) : Option Nat :=
  if first < 0x80 then some 0
  else if first < 0xc2 then none
  else if first < 0xe0 then some 1
  else if first < 0xf0 then some 2
  else if first < 0xf5 then some 3
  else none

/-- A byte may follow a first one immediately: no character is written longer than it has to be, no
half of a pair is one, and none lies beyond the last. -/
def mayFollow (first next : UInt8) : Bool :=
  if first == 0xe0 then 0xa0 ≤ next && next < 0xc0
  else if first == 0xed then 0x80 ≤ next && next < 0xa0
  else if first == 0xf0 then 0x90 ≤ next && next < 0xc0
  else if first == 0xf4 then 0x80 ≤ next && next < 0x90
  else 0x80 ≤ next && next < 0xc0

/-- The bytes at the front that go with a first one, at most `count` of them. -/
def followersOf (first : UInt8) (count : Nat) : List UInt8 → List UInt8
  | [] => []
  | next :: rest =>
    if count == 0 || !mayFollow first next then []
    else next :: (rest.take (count - 1)).takeWhile fun b => 0x80 ≤ b && b < 0xc0

/-- The code point of a first byte and those that go with it. -/
def pointOf (first : UInt8) (others : List UInt8) : Nat :=
  let high := match others.length with
    | 0 => first.toNat
    | 1 => first.toNat - 0xc0
    | 2 => first.toNat - 0xe0
    | _ => first.toNat - 0xf0
  others.foldl (fun n b => n * 64 + (b.toNat - 0x80)) high

/-- The piece at the front of bytes, of which `first` is the first. -/
def pieceAt (first : UInt8) (rest : List UInt8) : Piece :=
  match followers? first with
  | none => ⟨[first], .error .startByte⟩
  | some count =>
    let others := followersOf first count rest
    let point := if others.length == count then .ok (pointOf first others)
      else if others.length == rest.length then .error .endOfData
      else .error .continuation
    ⟨first :: others, point⟩

/-- Bytes taken apart as UTF-8. -/
def pieces : List UInt8 → List Piece
  | [] => []
  | first :: rest =>
    let piece := pieceAt first rest
    piece :: pieces (rest.drop (piece.bytes.length - 1))
termination_by bytes => bytes.length
decreasing_by
  simp only [List.length_drop, List.length_cons]
  omega

/-- The text that bytes hold. Where they hold none, there is a mark for what is wrong. -/
def ofBytes (bytes : List UInt8) : String :=
  ofPoints ((pieces bytes).map fun piece => match piece.point with
    | .ok p => p
    | .error _ => 0xfffd)

/-! ## Wider units -/

/-- Bytes as a number. -/
def word (highFirst : Bool) (bytes : List UInt8) : Nat :=
  (if highFirst then bytes else bytes.reverse).foldl (fun n b => n * 256 + b.toNat) 0

/-- Bytes taken apart in units of two. -/
def pairs (highFirst : Bool) : List UInt8 → List Piece
  | [] => []
  | [a] => [⟨[a], .error .truncated⟩]
  | a :: b :: rest => ⟨[a, b], .ok (word highFirst [a, b])⟩ :: pairs highFirst rest

/-- Bytes taken apart in units of four. -/
def fours (highFirst : Bool) : List UInt8 → List Piece
  | [] => []
  | a :: b :: c :: d :: rest =>
    let n := word highFirst [a, b, c, d]
    ⟨[a, b, c, d], if n ≤ 0x10ffff then .ok n else .error .outOfRange⟩ :: fours highFirst rest
  | rest => [⟨rest, .error .truncated⟩]

/-! ## Decoding -/

/-- Where and why bytes hold no text. -/
structure DecodeError where
  encoding : Encoding
  position : Nat
  bytes : List UInt8
  flaw : Flaw
  deriving DecidableEq, Repr

def DecodeError.message (e : DecodeError) : String :=
  "'" ++ e.encoding.name ++ "' codec can't decode " ++
    (match e.bytes with
     | [b] =>
       "byte 0x" ++ String.ofList (hexDigits 2 b.toNat) ++ " in position " ++
         Number.natText e.position
     | bytes =>
       "bytes in position " ++ Number.natText e.position ++ "-" ++
         Number.natText (e.position + bytes.length - 1)) ++
    ": " ++ e.flaw.message

/-- The numbers of pieces without a flaw, the first of which lies at a position. -/
def numbersFrom (encoding : Encoding) : Nat → List Piece → Except DecodeError (List Nat)
  | _, [] => .ok []
  | position, piece :: rest =>
    match piece.point with
    | .error flaw => .error ⟨encoding, position, piece.bytes, flaw⟩
    | .ok p => do return p :: (← numbersFrom encoding (position + piece.bytes.length) rest)

namespace Encoding

/-- The encoding of a JSON text, by its first bytes. -/
def ofJsonBytes : List UInt8 → Encoding
  | [0, _] => .utf16 true
  | [_, 0] => .utf16 false
  | a :: b :: c :: d :: _ =>
    if a == 0 then (if b == 0 then .utf32 true else .utf16 true)
    else if b == 0 then (if c == 0 && d == 0 then .utf32 false else .utf16 false)
    else .utf8
  | _ => .utf8

/-- The text that bytes hold. -/
def decode (e : Encoding) (bytes : List UInt8) : Except DecodeError String :=
  match e with
  | utf8 => ofPoints <$> numbersFrom e 0 (pieces bytes)
  | utf16 highFirst =>
    (fun us => String.ofList (joinUnits us)) <$> numbersFrom e 0 (pairs highFirst bytes)
  | utf32 highFirst => ofPoints <$> numbersFrom e 0 (fours highFirst bytes)

end Encoding

/-- The JSON text that bytes hold. A mark of the byte order in front does not count. -/
def ofJsonBytes (bytes : List UInt8) : Except DecodeError String :=
  match bytes with
  | 0xef :: 0xbb :: 0xbf :: rest => Encoding.utf8.decode rest
  | bytes => (Encoding.ofJsonBytes bytes).decode bytes

end Persona.Text
