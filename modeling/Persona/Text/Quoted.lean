import Persona.Text.CodePoint
import Persona.Text.Hexadecimal
import Persona.Text.Printable

/-!
# Quoted text

A text in quotes, as it is shown inside messages. Single quotes are used, double quotes when the
text holds a single quote and no double one. The quote and the backslash are escaped, and so is
every character without a visible form. Half of a surrogate pair is shown by its number.
-/

namespace Persona.Text

/-- One character between the quotes `q`. -/
def quoteChar (q c : Char) : List Char :=
  if c == q || c == '\\' then ['\\', c]
  else if c == '\t' then ['\\', 't']
  else if c == '\n' then ['\\', 'n']
  else if c == '\r' then ['\\', 'r']
  else if isPrintable c then [c]
  else if c.toNat < 0x100 then '\\' :: 'x' :: hexDigits 2 c.toNat
  else if c.toNat < 0x10000 then '\\' :: 'u' :: hexDigits 4 c.toNat
  else '\\' :: 'U' :: hexDigits 8 c.toNat

/-- One code point between the quotes `q`. -/
def quotePoint (q : Char) (point : Nat) : List Char :=
  if isHalf point then '\\' :: 'u' :: hexDigits 4 point else quoteChar q (Char.ofNat point)

/-- The quote that fits a text. -/
def quoteMark (cs : List Char) : Char :=
  if cs.contains '\'' && !cs.contains '"' then '"' else '\''

/-- The text in quotes. -/
def quote (s : String) : String :=
  let q := quoteMark s.toList
  String.ofList (q :: (points s).flatMap (quotePoint q) ++ [q])

/-- A list of texts in brackets, each in quotes. -/
def quoteList (xs : List String) : String :=
  "[" ++ ", ".intercalate (xs.map quote) ++ "]"

end Persona.Text
