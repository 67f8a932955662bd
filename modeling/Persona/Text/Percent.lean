import Persona.Text.Encoding

/-!
# Percent escapes

Bytes of a text may be written as a percent sign and two hexadecimal digits. Writing escapes every
byte outside a set of safe characters; reading takes escapes back, all of them or all but some.
-/

namespace Persona.Text

/-! ## Writing -/

/-- Characters that are never escaped. -/
def isUnreserved (c : Char) : Bool :=
  c.isAlphanum || c == '_' || c == '.' || c == '-' || c == '~'

/-- The escape of a byte. -/
def escapeByte (b : UInt8) : List Char :=
  ['%', capitalHexDigit (b.toNat / 16), capitalHexDigit (b.toNat % 16)]

/-- A text with every character escaped that is neither unreserved nor safe. -/
def escape (safe s : String) : String :=
  String.ofList (((bytes? s).getD []).flatMap fun b =>
    let c := Char.ofNat b.toNat
    if b < 0x80 && (isUnreserved c || safe.toList.contains c) then [c] else escapeByte b)

/-! ## Reading -/

/-- The byte that two hexadecimal digits stand for. -/
def escapedByte? (a b : Char) : Option UInt8 :=
  match hexValue? a, hexValue? b with
  | some a, some b => some (UInt8.ofNat (16 * a + b))
  | _, _ => none

/-- The bytes of plain characters with escapes among them. What is not an escape stands for itself. -/
def unescapedBytes : List Char → List UInt8
  | [] => []
  | '%' :: a :: b :: rest =>
    match escapedByte? a b with
    | some x => x :: unescapedBytes rest
    | none => 37 :: unescapedBytes (a :: b :: rest)
  | c :: rest => UInt8.ofNat c.toNat :: unescapedBytes rest

/-- A text with its escapes taken back. Each stretch of plain characters is read as bytes of its
own, which `read` turns into text. -/
def unescapeWith (read : List UInt8 → String) (s : String) : String :=
  if s.toList.contains '%' then
    let stretches := s.toList.splitBy fun a b => (a.toNat < 128) == (b.toNat < 128)
    String.join (stretches.map fun cs =>
      if cs.all fun c => c.toNat < 128 then read (unescapedBytes cs) else String.ofList cs)
  else s

/-- A text with its escapes taken back; what is no character becomes a mark. -/
def unescape (s : String) : String := unescapeWith ofBytes s

/-- The text of bytes in which those that are no character are escaped. -/
def ofBytesEscaped (bytes : List UInt8) : String :=
  String.ofList ((pieces bytes).flatMap fun piece => match piece.point with
    | .ok p => hold p
    | .error _ => piece.bytes.flatMap escapeByte)

/-- Take escapes back, except those of the bytes that are kept; `before` holds the characters since
the last of these, nearest first. -/
def unescapeFrom (kept : UInt8 → Bool) (before : List Char) : List Char → String
  | [] => unescapeWith ofBytesEscaped (String.ofList before.reverse)
  | '%' :: a :: b :: rest =>
    if (escapedByte? a b).any kept then
      unescapeWith ofBytesEscaped (String.ofList before.reverse) ++ String.ofList ['%', a, b] ++
        unescapeFrom kept [] rest
    else unescapeFrom kept ('%' :: before) (a :: b :: rest)
  | c :: rest => unescapeFrom kept (c :: before) rest

/-- A text with its escapes taken back, except those of controls, blanks, percent signs and further
characters, and of bytes that are no character. -/
def unescapeSafely (further : String) (s : String) : String :=
  unescapeFrom (fun b => b ≤ 0x20 || b == 0x25 || b == 0x7f ||
    further.toList.contains (Char.ofNat b.toNat)) [] s.toList

end Persona.Text
