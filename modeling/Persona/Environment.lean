import Persona.World.Act

/-!
# The environment file

Settings come from a file of `KEY=VALUE` lines. A line that starts with `#` or has no `=` does not
count; quotes around a value are dropped.
-/

namespace Persona.Environment

/-- The file that holds the settings. -/
def file : Path := Path.home.join ".env"

def isQuote (c : Char) : Bool := c == '"' || c == '\''

/-- The setting of a line. -/
def setting? (line : String) : Option (String × String) :=
  if Text.startsWith line "#" then none
  else (Text.splitOnce line "=").map fun (key, value) => (key, Text.trimWhere isQuote value)

/-- The settings of a file, in order. -/
def settings (text : String) : List (String × String) :=
  (Text.lines text).filterMap setting?

/-- Put the settings of the file, if there is one, into the environment. -/
def load : Act Unit := do
  if ← Act.fileExists file then
    (settings (← Act.readFile file)).forM fun (key, value) => Act.setEnv key value

end Persona.Environment
