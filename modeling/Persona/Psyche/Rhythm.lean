import Persona.Time.Moment

/-!
# The rhythm of the day

The day has seven phases, each with what it is good for and how much energy it brings.
-/

namespace Persona.Psyche

/-- What a phase of the day is best for. -/
inductive Quality where
  | awakening
  | peak
  | social
  | creative
  | reflection
  | windingDown
  | integration
  deriving DecidableEq, Repr

def Quality.name : Quality → String
  | awakening => "awakening"
  | peak => "peak"
  | social => "social"
  | creative => "creative"
  | reflection => "reflection"
  | windingDown => "winding-down"
  | integration => "integration"

inductive Phase where
  | dawn
  | morning
  | noon
  | afternoon
  | dusk
  | evening
  | night
  deriving DecidableEq, Repr

namespace Phase

def name : Phase → String
  | dawn => "dawn"
  | morning => "morning"
  | noon => "noon"
  | afternoon => "afternoon"
  | dusk => "dusk"
  | evening => "evening"
  | night => "night"

def quality : Phase → Quality
  | dawn => .awakening
  | morning => .peak
  | noon => .social
  | afternoon => .creative
  | dusk => .reflection
  | evening => .windingDown
  | night => .integration

/-- From 0.0 to 1.0. -/
def energy : Phase → Float
  | dawn => 0.7
  | morning => 1.0
  | noon => 0.85
  | afternoon => 0.75
  | dusk => 0.6
  | evening => 0.4
  | night => 0.2

/-- The phase of an hour; the night runs past midnight. -/
def ofHour (hour : Nat) : Phase :=
  if hour < 5 then night
  else if hour < 9 then dawn
  else if hour < 12 then morning
  else if hour < 14 then noon
  else if hour < 17 then afternoon
  else if hour < 20 then dusk
  else if hour < 23 then evening
  else night

def ofMoment (now : Moment) : Phase := ofHour now.hour

/-- Time to slow down. -/
def isRestful (p : Phase) : Bool := p.energy < 0.3

end Phase

end Persona.Psyche
