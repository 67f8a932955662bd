import Persona.Text.Digit
import Persona.Text.Wrap

/-!
# The help text

What the companion prints about its command line, laid out for the width of the terminal: the
usage, a description, and every argument with what it is for.
-/

namespace Persona.Companion.Help

/-- The terminal is taken to be so wide when it does not say. -/
def standardWidth : Int := 80

/-- The width of the terminal, as the environment gives it. -/
def terminalWidth (columns : Option String) : Int :=
  match columns.map Text.readInt with
  | some (.ok n) => if 0 < n then n else standardWidth
  | _ => standardWidth

def blanks (n : Nat) : String := String.ofList (List.replicate n ' ')

/-! ## The usage -/

def usageLabel : String := "usage: "

def programName : String := "phi_bot.py"

def optional : List String := ["[-h]", "[--port PORT]"]

def modeChoice : String := "\x7bchat,discord,github,twitter,all\x7d"

def positional : List String := [modeChoice]

/-- Lines of words, indented; the width counts the indentation. -/
def indented (width : Int) (indent : Nat) (words : List String) : List String :=
  (Text.wrap (width - indent) words).map (blanks indent ++ ·)

/-- The usage on one line if it fits. Else the arguments go below the program's name, or, on a
narrow terminal, on lines of their own. -/
def usage (width : Int) : List String :=
  let whole := usageLabel ++ " ".intercalate (programName :: optional ++ positional)
  let head := usageLabel ++ programName
  if whole.length ≤ width then [whole]
  else if 4 * (head.length : Int) ≤ 3 * width then
    let indent := head.length + 1
    let first := Text.wrap (width - indent) optional
    (match first with
     | line :: rest => (head ++ " " ++ line) :: rest.map (blanks indent ++ ·)
     | [] => [head]) ++ indented width indent positional
  else
    let indent := usageLabel.length
    let together := indented width indent (optional ++ positional)
    head :: if together.length ≤ 1 then together
      else indented width indent optional ++ indented width indent positional

/-! ## The arguments -/

/-- Text is never set narrower than this. -/
def leastWidth : Int := 11

/-- A paragraph of words. -/
def paragraph (width : Int) (text : String) : List String :=
  Text.wrap (max width leastWidth) (Text.split text " ")

/-- The column at which the explanations start. -/
def helpColumn (width : Int) : Nat := min 24 (max (width - 20) 4).toNat

/-- An argument and its explanation, beside it if there is room, else below it. -/
def entry (width : Int) (name explanation : String) : List String :=
  let column := helpColumn width
  let lines := paragraph (width - column) explanation
  if name.length + 4 ≤ column then
    match lines with
    | line :: rest =>
      ("  " ++ name ++ blanks (column - 2 - name.length) ++ line) :: rest.map (blanks column ++ ·)
    | [] => ["  " ++ name]
  else ("  " ++ name) :: lines.map (blanks column ++ ·)

/-- The help for a terminal of a width. Two columns stay free. -/
def text (terminal : Int) : String :=
  let width := terminal - 2
  Text.ofLines (usage width ++ [""] ++
    paragraph width "Phi Bot - Universal Phi Assistant" ++ ["", "positional arguments:"] ++
    entry width modeChoice "Bot mode to run" ++ ["", "options:"] ++
    entry width "-h, --help" "show this help message and exit" ++
    entry width "--port PORT" "Port for webhook server")

end Persona.Companion.Help
