import Persona.Json.Writer
import Persona.World.Act

/-!
# The cursor file

The inboxes share one file, an object with the last value seen by each of them. A save keeps what
the others stored.
-/

namespace Persona.Mention.Cursor

def file : Path := Path.home.join ".mention_state.json"

/-- The value of the file's text. -/
def contents : Act Json := do
  match Json.decode (← Act.readFile file) with
  | .ok v => return v
  | .error e => throw (.decoding e)

/-- The value stored under a key; nothing when there is no file. -/
def load (key : String) : Act (Option Json) := do
  if ← Act.fileExists file then return some (← Act.look ((← contents).fieldOrNull key))
  else return none

def store (v : Json) : Act Unit := Act.writeFile file v.encode

/-- Store a value under a key of the file's object. -/
def save (key : String) (value : Json) : Act Unit := do
  let old ← if ← Act.fileExists file then contents else pure (.obj [])
  store (← Act.look (old.setField key value))

/-! ## Entries

A file that holds a list of pairs has keys of other kinds than texts. Two keys that are equal as
values are one key; they are only made texts when they are written. -/

abbrev Entries := List (Json × Json)

/-- Put a value under a key: an equal key keeps its place, a new one goes to the end. -/
def Entries.put : Entries → Json → Json → Entries
  | [], key, value => [(key, value)]
  | (k, v) :: rest, key, value =>
    if k.sameKey key then (k, value) :: rest else (k, v) :: Entries.put rest key value

/-- Put the pairs of a list, from the given position on, into entries. -/
def Entries.putPairs (entries : Entries) (position : Nat) : List Json → Except Mismatch Entries
  | [] => .ok entries
  | pair :: rest => do
    match pair.items with
    | .error _ => .error (.notASequence position)
    | .ok [k, v] => putPairs (entries.put (← k.lookable) v) (position + 1) rest
    | .ok items => .error (.notAPair position items.length)

/-- Put all fields of a value into entries; a list must hold pairs. -/
def Entries.putAll (entries : Entries) (v : Json) : Except Mismatch Entries :=
  match v with
  | .obj fs => .ok (fs.foldl (fun acc f => acc.put (.str f.1) f.2) entries)
  | v => do entries.putPairs 0 (← v.items)

/-- The field name that a key is written as. -/
def fieldName (key : Json) : String :=
  match key with
  | .str s => s
  | v => v.encode

def Entries.json (entries : Entries) : Json := .obj (entries.map fun (k, v) => (fieldName k, v))

/-- Store a value under a key that comes first, before what the file holds. -/
def saveFirst (key : String) (value : Json) : Act Unit := do
  let own : Entries := [(.str key, value)]
  let entries ← if ← Act.fileExists file then do Act.look (own.putAll (← contents)) else pure own
  store (entries.put (.str key) value).json

end Persona.Mention.Cursor
