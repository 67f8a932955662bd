import Persona.Calculation
import Persona.Psyche.Rhythm
import Persona.World.Act

/-!
# Curiosity

What the agent finds interesting and what it has explored. Without an interest it looks around
its workspace for one. A thing is a file of the workspace, or any value that it was told of and
that can be looked up again.
-/

namespace Persona.Psyche

/-- How interesting each thing is, in the order of noticing. -/
abbrev Interests := List (Json × Quantity)

namespace Interests

/-- How interesting a thing is, if it was noticed. -/
def get? : Interests → Json → Option Quantity
  | [], _ => none
  | (k, x) :: rest, thing => if k.sameKey thing then some x else get? rest thing

/-- Set how interesting a thing is: a known thing keeps its place, a new one goes to the end. -/
def put : Interests → Json → Quantity → Interests
  | [], thing, amount => [(thing, amount)]
  | (k, x) :: rest, thing, amount =>
    if k.sameKey thing then (k, amount) :: rest else (k, x) :: put rest thing amount

end Interests

structure Curiosity where
  workspace : Path
  explored : List Json := []
  interests : Interests := []
  /-- Null without any. -/
  fascination : Json := .null

namespace Curiosity

/-- Find a thing more interesting than before by an amount, which must be a number. -/
def notice (c : Curiosity) (thing amount : Json) : Except Fault Curiosity := do
  let thing ← thing.lookable.mapError .mismatch
  let before := (c.interests.get? thing).getD (.whole 0)
  match amount.quantity? with
  | some x =>
    let after ← (before.add x).mapError .calculation
    return { c with interests := c.interests.put thing after }
  | none => .error (.mismatch (.noOperation "+" (Json.ofQuantity before).kindName amount.kindName))

/-- The first of the most interesting things, null without any. -/
def mostInteresting (c : Curiosity) : Json :=
  match c.interests with
  | [] => .null
  | first :: rest => (rest.foldl (fun best x => if best.2.isBelow x.2 then x else best) first).1

/-- Whether to explore now; more likely in creative hours, less in focused ones. -/
def shouldExplore (now : Moment) : Chance Bool :=
  match (Phase.ofMoment now).quality with
  | .creative => Chance.happens 0.4
  | .peak => Chance.happens 0.1
  | _ => Chance.happens 0.2

/-- Endings of names worth a look, the most interesting kind first. -/
def endings : List String := [".phi", ".py", ".rs", ".hs", ".md"]

/-- The thing was explored before. -/
def hasExplored (c : Curiosity) (thing : Json) : Bool := c.explored.any (·.sameKey thing)

/-- Unexplored files of the first kind that has any. -/
def candidates (c : Curiosity) (files : Files) : List String :=
  (endings.map fun e =>
    (files.endingWith c.workspace e).filter fun path => !c.hasExplored (.str path)).find?
    (!·.isEmpty) |>.getD []

/-- Look around the workspace, if it exists, and notice one file: null if there is none. -/
def scan : ActOn Curiosity Json := do
  let c ← get
  unless ← (Act.fileExists c.workspace : Act Bool) do return .null
  let files ← (do return (← get).files : Act Files)
  match c.candidates files with
  | [] => return .null
  | first :: rest =>
    let chosen ← (Act.chance (Chance.pick first rest) : Act String)
    set (← (MonadExcept.ofExcept (c.notice (.str chosen) (.float 0.7)) : Act Curiosity))
    return .str chosen

/-- Turn to a thing. -/
def turnTo (c : Curiosity) (thing : Json) : Curiosity :=
  { c with explored := c.explored ++ [thing], fascination := thing }

/-- Halve the interest in a thing. -/
def tireOf (c : Curiosity) (thing : Json) : Except CalculationError Curiosity := do
  match c.interests.get? thing with
  | some x => return { c with interests := c.interests.put thing (.real (← x.scale 0.5)) }
  | none => return c

/-- Turn to a thing, whose interest is halved. The turn stays even if the interest is too large to
be halved. -/
def visit (thing : Json) : ActOn Curiosity Unit := do
  modify (·.turnTo thing)
  match (← get).tireOf thing with
  | .ok c => set c
  | .error e => throw (.calculation e)

/-- Explore the most interesting thing or any other; without an interest, look around. -/
def explore : ActOn Curiosity Json := do
  let chance {α : Type} (c : Chance α) : ActOn Curiosity α := (Act.chance c : Act α)
  let c ← get
  match c.interests with
  | [] => scan
  | first :: rest =>
    let target ← if ← chance (Chance.happens 0.7) then pure c.mostInteresting
      else chance (Chance.pick first.1 (rest.map (·.1)))
    visit target
    return target

end Curiosity

end Persona.Psyche
