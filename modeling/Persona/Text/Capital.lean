/-!
# Capital letters

Names in plain letters are compared by their capitals. A few letters outside the plain ones have
plain capitals too, some of them more than one.
-/

namespace Persona.Text

/-- The letters outside the plain ones whose capitals are plain. -/
def plainCapitals : List (Char × String) :=
  [('ı', "I"), ('ſ', "S"), ('ß', "SS"), ('ﬀ', "FF"), ('ﬁ', "FI"), ('ﬂ', "FL"), ('ﬃ', "FFI"),
   ('ﬄ', "FFL"), ('ﬅ', "ST"), ('ﬆ', "ST")]

/-- The capitals of a character, as far as they are plain letters; any other one stays. -/
def capitals (c : Char) : List Char :=
  match plainCapitals.find? (·.1 == c) with
  | some (_, s) => s.toList
  | none => [c.toUpper]

/-- A text in capitals. -/
def upper (s : String) : String := String.ofList (s.toList.flatMap capitals)

end Persona.Text
