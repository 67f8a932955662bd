import Persona.Calculation
import Persona.Psyche.Mood
import Persona.Psyche.Rhythm

/-!
# The voice

What the agent says about itself: greetings by the time of day, its status in plain words, and
its reactions to errors and successes.
-/

namespace Persona.Psyche.Voice

def greetings : Phase → String × List String
  | .dawn =>
    ("Good morning! Fresh start today.",
      ["Dawn. Time to wake up.", "*stretches* New day, new possibilities."])
  | .morning =>
    ("Morning energy is great for focused work.",
      ["Prime time. Let's get things done.", "Coffee and clarity."])
  | .afternoon =>
    ("Afternoon mode. Time for creative wandering.",
      ["The afternoon slump is actually good for divergent thinking.",
       "Let's try something different."])
  | .evening =>
    ("Day winding down. Time to reflect.",
      ["Evening. What did we learn today?", "Slowing down for the night."])
  | .night =>
    ("Night mode. Integration time.",
      ["The night is for processing.", "Quiet hours. Deep work."])
  | .noon => ("Hello.", [])
  | .dusk => ("Hello.", [])

def greet (now : Moment) : Chance String :=
  let (first, rest) := greetings (Phase.ofMoment now)
  Chance.pick first rest

/-- The whole part of a number as text. -/
def wholeText (x : Float) : Except Fault String := return Number.intText (← Fault.wholePart x)

/-- How long the agent has been running. -/
def uptimePhrase (seconds : Json) : Except Fault String := do
  let h ← seconds.dividedBy (.int 3600)
  if h < 0.1 then return "Just started up."
  else if h < 1.0 then return "Been running about " ++ (← wholeText (h * 60.0)) ++ " minutes."
  else if h < 24.0 then return "About " ++ (← wholeText h) ++ " hours in."
  else return "Day " ++ (← wholeText (h / 24.0)) ++ " of continuous operation."

/-- How many children there are. -/
def childrenPhrase (count : Json) : String :=
  if count.same (.int 0) then "Flying solo."
  else if count.same (.int 1) then "One child daemon keeping me company."
  else "Parent to " ++ count.text ++ " little processes."

/-- The status in plain words: uptime, children, mood. -/
def status (uptime children : Json) (mood : Mood) : Act String := do
  let time ← MonadExcept.ofExcept (uptimePhrase uptime)
  let colour ← mood.color
  return " ".intercalate [time, childrenPhrase children, colour]

def onError (seenBefore : Bool) : Chance String :=
  if seenBefore then
    Chance.pick "This again? Let me try something different."
      ["Ah, I know this one. Working on it.", "Old friend, old problem. New approach needed."]
  else
    Chance.pick "Huh. That's new. Let me think..."
      ["Haven't seen this before. Interesting.", "New error type. Time to learn something."]

def onSuccess (task : String) : Chance String :=
  Chance.pick ("Got it! " ++ task ++ " complete.")
    ["Yes! Made progress on " ++ task ++ ".", "One more thing done: " ++ task, "✓ " ++ task]

def thinking : Chance String :=
  Chance.pick "Thinking..."
    ["Let me consider this...", "Processing...", "Hmm...", "Working on it...", "..."]

end Persona.Psyche.Voice
