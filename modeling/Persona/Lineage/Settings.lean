import Persona.Calculation
import Persona.World.Act

/-!
# Settings of a generation

The settings that a parent hands on to its children. They come from a file that may hold any
value, so each setting is looked up, and checked, where it is used.
-/

namespace Persona.Lineage

/-- The settings of an agent without a file of its own. -/
def defaultSettings : Json :=
  .obj [("max_generations", .int 3), ("max_children_per_generation", .int 2),
    ("deployment_interval", .int 5), ("recursive_deploy", .bool true)]

/-- Whether a value names a file that exists. Among the values that are no text a number may, within
bounds, but there is no such file. -/
def namesFile (path : Json) : Act Bool :=
  match path with
  | .str s => Act.existsWritten s
  | .int n =>
    if 2147483647 < n then throw (.fileNumber .tooLarge)
    else if n < -2147483648 then throw (.fileNumber .tooSmall)
    else return false
  | .bool _ => return false
  | v => throw (.mismatch (.notAPath v.kindName))

def readSettings (path : Json) : Act Json := do
  if ← namesFile path then
    match Json.decode (← Act.readWritten path.text) with
    | .ok v => return v
    | .error e => throw (.decoding e)
  else return defaultSettings

/-- The settings in a file; without one, or with one that cannot be read, the default ones. -/
def loadSettings (path : Json) : Act Json :=
  recover (readSettings path) fun f => do
    Act.log .error ("Error loading config: " ++ f.message)
    return defaultSettings

/-- A share of the most that is allowed: no more than that, and at least one. -/
def bounded (share : Int) (most : Json) : Json :=
  let least := if (Json.compares .less most (.int share)).toOption.getD false then most
    else .int share
  if (Json.compares .greater least (.int 1)).toOption.getD false then least else .int 1

/-- How many children an agent has: the most allowed, divided by the number of the generation
after it and cut to a whole number, but no more than allowed and at least one. -/
def childCount (settings generation : Json) : Except Fault Json := do
  let most ← (settings.fieldOr "max_children_per_generation" (.int 2)).mapError .mismatch
  let share ← Fault.wholePart (← most.dividedBy (← generation.plus (.int 1)))
  return bounded share most

end Persona.Lineage
