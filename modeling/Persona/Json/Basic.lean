import Persona.Fields
import Persona.Number.Numeral
import Persona.Text.Quoted

/-!
# JSON values

Values as they come from files and services. The fields of an object keep the order in which they
were first put.
-/

namespace Persona

inductive Json where
  | null
  | bool (b : Bool)
  | int (n : Int)
  | float (x : Float)
  | str (s : String)
  | arr (items : List Json)
  | obj (fields : List (String × Json))
  deriving Inhabited

namespace Json

/-- The word for the kind of a value, as messages show it. -/
def kindName : Json → String
  | null => "NoneType"
  | bool _ => "bool"
  | int _ => "int"
  | float _ => "float"
  | str _ => "str"
  | arr _ => "list"
  | obj _ => "dict"

/-- A value counts as true unless it is null, false, zero or empty. -/
def truthy : Json → Bool
  | null => false
  | bool b => b
  | int n => n != 0
  | float x => !(x == 0.0)
  | str s => !s.isEmpty
  | arr xs => !xs.isEmpty
  | obj fs => !fs.isEmpty

/-- An optional text, null when it is absent. -/
def ofOption : Option String → Json
  | some s => str s
  | none => null

mutual

/-- A value as messages show it inside a list: texts in quotes. -/
def shown : Json → String
  | null => "None"
  | bool b => if b then "True" else "False"
  | int n => Number.intText n
  | float x => Number.floatText x
  | str s => Text.quote s
  | arr xs => "[" ++ ", ".intercalate (shownItems xs) ++ "]"
  | obj fs => "\x7b" ++ ", ".intercalate (shownFields fs) ++ "\x7d"

def shownItems : List Json → List String
  | [] => []
  | x :: xs => x.shown :: shownItems xs

def shownFields : List (String × Json) → List String
  | [] => []
  | (k, v) :: fs => (Text.quote k ++ ": " ++ v.shown) :: shownFields fs

end

/-- A value as messages show it: a text stands for itself. -/
def text : Json → String
  | str s => s
  | v => v.shown

end Json

end Persona
