import Persona.Text.Search

/-!
# Wrapping

Words are set on lines of a given width, as many on each line as fit. A word that is wider than a
line has a line of its own.
-/

namespace Persona.Text

/-- Set words on lines, behind a line begun with the words `line`, which take `used` places. -/
def wrapFrom (width used : Int) (line : List String) : List String → List (List String)
  | [] => if line.isEmpty then [] else [line]
  | word :: rest =>
    if width < used + 1 + word.length && !line.isEmpty then
      line :: wrapFrom width word.length [word] rest
    else wrapFrom width (used + 1 + word.length) (line ++ [word]) rest

/-- Set words on lines of a width, one blank between two words. -/
def wrap (width : Int) (words : List String) : List String :=
  (wrapFrom width (-1) [] words).map " ".intercalate

end Persona.Text
