import Persona.Calculation
import Persona.Psyche.Mood
import Persona.Psyche.Rhythm

/-!
# Rest

Work tires, rest refreshes. From outside, fatigue can be set to anything, and what is not a number
then fails where it is calculated with.
-/

namespace Persona.Psyche

structure Rest where
  last : Moment
  resting : Bool := false
  fatigue : Json := .float 0.0

namespace Rest

/-- Grow tired by so much, up to full fatigue. -/
def tire (r : Rest) (amount : Float) : Except Fault Rest := do
  return { r with fatigue := .float (Mood.atMost 1.0 (← r.fatigue.plusReal amount)) }

/-- Work adds a hundredth of its intensity. -/
def work (r : Rest) (intensity : Float) : Except Fault Rest := r.tire (intensity * 0.01)

/-- Work of an intensity that is given as a value. -/
def workAs (r : Rest) (intensity : Json) : Except Fault Rest := do
  r.tire (← intensity.times 0.01)

/-- Fatigue lies above a level. -/
def isBeyond (r : Rest) (level : Float) : Except Mismatch Bool :=
  r.fatigue.compares .greater (.float level)

/-- Rest is needed when tired, four hours after the last rest (days not counted), and at night. -/
def isNeeded (r : Rest) (now : Moment) : Except Mismatch Bool := do
  return (← r.isBeyond 0.8) || 14400 < (Span.since now r.last).secondsWithinDay ||
    (Phase.ofMoment now).isRestful

/-- Take a rest: less than a third of the fatigue is left. -/
def take (now : Moment) : ActOn Rest Unit := do
  modify fun r => { r with resting := true }
  let r ← get
  let fatigue ← (MonadExcept.ofExcept (Json.scaled "*=" r.fatigue 0.3) : Act Float)
  set { last := now, resting := false, fatigue := .float fatigue : Rest }

def status (r : Rest) (now : Moment) : Except Mismatch String := do
  if r.resting then return "Resting... consolidating..."
  else if ← r.isNeeded now then return "Getting tired. Should rest soon."
  else if ← r.isBeyond 0.5 then return "A bit worn. Still going."
  else return "Well-rested and ready."

end Rest

end Persona.Psyche
