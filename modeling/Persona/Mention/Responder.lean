import Persona.Mention.Topic
import Persona.Psyche.Mood
import Persona.Psyche.Rhythm
import Persona.World.Act

/-!
# Answering mentions

Who is answered, and how. An author is answered once in five minutes; the agent's own accounts
never are. The answer is a template of the first topic, coloured by the mood.
-/

namespace Persona.Mention

structure Responder where
  /-- Absent when the agent has no psyche. -/
  mood : Option Psyche.Mood
  /-- When each author was last answered, in the order of the first answers. -/
  answered : List (String × Moment) := []

namespace Responder

/-- A responder; `hasMood` when a psyche is at hand. -/
def new (hasMood : Bool) (now : Moment) : Responder :=
  { mood := if hasMood then some (Psyche.Mood.new now) else none }

/-- The agent's own accounts, in lower case. -/
def ownAccounts : List String := ["phi_lang", "phi_autonomous", "phi"]

/-- Five minutes, in microseconds. -/
def window : Int := 300 * Moment.perSecond

def isOwn (author : String) : Bool := ownAccounts.contains (Text.lower author)

/-- The author was answered less than the window ago. -/
def isRecent (r : Responder) (author : String) (now : Moment) : Bool :=
  match Fields.get? r.answered author with
  | some last => (Span.since now last).micros < window
  | none => false

/-- Whether to answer an author now. An answer granted is remembered. -/
def grant (r : Responder) (author : String) (now : Moment) : Bool × Responder :=
  if isOwn author || r.isRecent author now then (false, r)
  else (true, { r with answered := Fields.put r.answered author now })

/-- The emotion that a topic brings about, with its intensity. -/
def emotionOf : Topic → Option (Psyche.Emotion × Float)
  | .praise => some (.proud, 0.7)
  | .bug => some (.curious, 0.6)
  | .help => some (.content, 0.5)
  | .question => some (.curious, 0.7)
  | _ => none

/-- The mood after a message on a topic. -/
def moved (m : Psyche.Mood) (topic : Topic) (now : Moment) : Psyche.Mood :=
  match emotionOf topic with
  | some (e, intensity) => m.feel e intensity now
  | none => m

def nightNote : String := "\n\n(Running in night mode — responses may be slower 🌙)"

/-- Act on the mood alone. -/
def withMood {α : Type} (mood : Psyche.Mood) (a : ActOn Psyche.Mood α) : ActOn Responder α :=
  a.within (fun _ => mood) fun mood r => { r with mood := some mood }

/-- Let the mood drift and the topic work on it, and perhaps put a phrase that shows it before the
answer. -/
def colour (topic : Topic) (template : String) : ActOn Psyche.Mood String := do
  let now ← (Act.now : Act Moment)
  Psyche.Mood.drift
  modify (moved · topic now)
  if ← (Act.chance (Chance.happens 0.3) : Act Bool) then
    let mood ← get
    let phrase ← (mood.color : Act String)
    return phrase ++ " " ++ template
  else return template

/-- The answer to a text; the mood changes with it. -/
def compose (text : String) : ActOn Responder String := do
  let topic := Topic.primary text
  let template ← (Act.chance (Chance.pick topic.answers.1 topic.answers.2) : Act String)
  match (← get).mood with
  | none => return template
  | some mood =>
    let coloured ← withMood mood (colour topic template)
    let now ← (Act.now : Act Moment)
    return coloured ++ (if (Psyche.Phase.ofMoment now).isRestful then nightNote else "")

end Responder

end Persona.Mention
