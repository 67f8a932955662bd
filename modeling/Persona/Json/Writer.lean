import Persona.Json.Basic

/-!
# Writing JSON

Every character outside the printable ASCII range is escaped, those above the basic plane as a
pair of surrogates, half of a pair as that half. A value stands on one line, or indented by two
blanks with each item on a line of its own.
-/

namespace Persona.Json

inductive Layout where
  | line
  | indented
  deriving DecidableEq, Repr

/-- `\uXXXX` for a code unit. -/
def unitEscape (n : Nat) : List Char :=
  '\\' :: 'u' :: Text.hexDigits 4 n

/-- One character inside a quoted text. -/
def escapeChar (c : Char) : List Char :=
  if c == '"' then ['\\', '"']
  else if c == '\\' then ['\\', '\\']
  else if c == '\n' then ['\\', 'n']
  else if c == '\r' then ['\\', 'r']
  else if c == '\t' then ['\\', 't']
  else if c.toNat == 0x8 then ['\\', 'b']
  else if c.toNat == 0xc then ['\\', 'f']
  else if 0x20 ≤ c.toNat && c.toNat ≤ 0x7e then [c]
  else if c.toNat < 0x10000 then unitEscape c.toNat
  else
    let n := c.toNat - 0x10000
    unitEscape (0xd800 + n / 0x400) ++ unitEscape (0xdc00 + n % 0x400)

/-- One code point inside a quoted text. -/
def escapePoint (point : Nat) : List Char :=
  if Text.isHalf point then unitEscape point else escapeChar (Char.ofNat point)

def quoted (s : String) : List Char :=
  '"' :: (Text.points s).flatMap escapePoint ++ ['"']

/-- A double; what is not finite has a word of its own. -/
def floatChars (x : Float) : List Char :=
  match Number.parts x with
  | .nan => "NaN".toList
  | .infinite negative => (if negative then "-Infinity" else "Infinity").toList
  | .finite .. => (Number.floatText x).toList

/-- The start of an item's line at the given depth; nothing on one line. -/
def Layout.newline (layout : Layout) (depth : Nat) : List Char :=
  match layout with
  | .line => []
  | .indented => '\n' :: List.replicate (2 * depth) ' '

/-- What separates two items. -/
def Layout.separator (layout : Layout) (depth : Nat) : List Char :=
  match layout with
  | .line => [',', ' ']
  | .indented => ',' :: layout.newline depth

mutual

/-- The text of a value whose items stand at depth `depth + 1`. -/
def chars (layout : Layout) (depth : Nat) : Json → List Char
  | null => "null".toList
  | bool b => (if b then "true" else "false").toList
  | int n => (Number.intText n).toList
  | float x => floatChars x
  | str s => quoted s
  | arr [] => "[]".toList
  | arr (x :: xs) =>
    '[' :: layout.newline (depth + 1) ++ chars layout (depth + 1) x ++ itemChars layout depth xs
  | obj [] => ['\x7b', '\x7d']
  | obj ((k, v) :: fs) =>
    '\x7b' :: layout.newline (depth + 1) ++ quoted k ++ ": ".toList ++ chars layout (depth + 1) v ++
      fieldChars layout depth fs

/-- The items after the first, and the closing bracket. -/
def itemChars (layout : Layout) (depth : Nat) : List Json → List Char
  | [] => layout.newline depth ++ [']']
  | x :: xs =>
    layout.separator (depth + 1) ++ chars layout (depth + 1) x ++ itemChars layout depth xs

/-- The fields after the first, and the closing brace. -/
def fieldChars (layout : Layout) (depth : Nat) : List (String × Json) → List Char
  | [] => layout.newline depth ++ ['\x7d']
  | (k, v) :: fs =>
    layout.separator (depth + 1) ++ quoted k ++ ": ".toList ++ chars layout (depth + 1) v ++
      fieldChars layout depth fs

end

/-- The value on one line. -/
def encode (v : Json) : String := String.ofList (v.chars .line 0)

/-- The value on indented lines. -/
def encodeIndented (v : Json) : String := String.ofList (v.chars .indented 0)

end Persona.Json
