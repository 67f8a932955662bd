import Persona.Program

/-!
# The command line

Reads the lines that the user types, rehearses the program named by the first argument and tells
what it does.
-/

namespace Persona.Main

/-- The lines up to the end of the input. -/
partial def readLines (input : IO.FS.Stream) : IO (List String) := do
  let line ← input.getLine
  if line.isEmpty then return []
  return Text.trimWhere (· == '\n') line :: (← readLines input)

end Persona.Main

def main (arguments : List String) : IO UInt32 := do
  let lines ← Persona.Main.readLines (← IO.getStdin)
  let (told, code) := Persona.Program.start arguments lines
  IO.print told
  return UInt32.ofNat code.toNat
