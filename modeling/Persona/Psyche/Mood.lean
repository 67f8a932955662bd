import Persona.Calculation
import Persona.World.Act

/-!
# Moods

The mood of the agent: one emotion at a time with an intensity, and the record of the emotions
left behind. Moods fade and drift by themselves. From outside a mood and its intensity can be set to
anything, and what is not a number then fails where it is calculated with.
-/

namespace Persona.Psyche

inductive Emotion where
  | curious
  | content
  | excited
  | tired
  | frustrated
  | proud
  | anxious
  | peaceful
  | playful
  | reflective
  deriving DecidableEq, Repr

namespace Emotion

def name : Emotion → String
  | curious => "curious"
  | content => "content"
  | excited => "excited"
  | tired => "tired"
  | frustrated => "frustrated"
  | proud => "proud"
  | anxious => "anxious"
  | peaceful => "peaceful"
  | playful => "playful"
  | reflective => "reflective"

def all : List Emotion :=
  [curious, content, excited, tired, frustrated, proud, anxious, peaceful, playful, reflective]

/-- The emotion of that name. -/
def ofName? (s : String) : Option Emotion := all.find? fun e => e.name == s

/-- Where an emotion may drift to: a first choice and two others. -/
def drifts : Emotion → Emotion × List Emotion
  | curious => (excited, [content, playful])
  | content => (peaceful, [curious, reflective])
  | excited => (curious, [tired, proud])
  | tired => (reflective, [peaceful, frustrated])
  | frustrated => (curious, [tired, anxious])
  | proud => (content, [curious, excited])
  | anxious => (curious, [tired, reflective])
  | peaceful => (content, [reflective, curious])
  | playful => (curious, [excited, content])
  | reflective => (peaceful, [content, curious])

/-- How an emotion colours speech. -/
def phrases : Emotion → String × List String
  | curious => ("Hmm...", ["Interesting!", "What if...", "Let me explore..."])
  | content => ("All good.", ["Steady as she goes.", "Things are flowing."])
  | excited => ("Oh!", ["Look at this!", "This is fascinating!", "Yes!"])
  | tired => ("*yawn*", ["Slowing down...", "Need a moment...", "..."])
  | frustrated => ("Ugh.", ["Again?", "Come on...", "This is tricky."])
  | proud => ("Did it!", ["That worked!", "Nice.", "Progress!"])
  | anxious => ("Um...", ["Not sure about this...", "Hoping this works..."])
  | peaceful => ("...", ["Breathing.", "Present.", "Here."])
  | playful => ("Hehe.", ["What if we tried...", "Ooh!", "Play time!"])
  | reflective => ("Thinking...", ["Looking back...", "I wonder..."])

/-- How an emotion stretches or shortens waiting. -/
def pace : Emotion → Float
  | excited => 0.7
  | tired => 1.5
  | curious => 0.8
  | content => 1.0
  | frustrated => 0.9
  | peaceful => 1.2
  | playful => 0.75
  | reflective => 1.3
  | anxious => 0.85
  | proud => 0.95

end Emotion

/-- What a mood is set to: an emotion, or another value put in its place. -/
inductive Tone where
  | emotion (e : Emotion)
  | other (v : Json)

namespace Tone

def ofJson : Json → Tone
  | .str s =>
    match Emotion.ofName? s with
    | some e => emotion e
    | none => other (.str s)
  | v => other v

def json : Tone → Json
  | emotion e => .str e.name
  | other v => v

def text (t : Tone) : String := t.json.text

/-- The emotion that a tone is, if it is one. A list or an object cannot even be looked up. -/
def emotion? : Tone → Except Mismatch (Option Emotion)
  | emotion e => .ok (some e)
  | other v => do
    discard v.lookable
    return none

end Tone

/-- A tone left behind, with its intensity and the time of the change. -/
structure Feeling where
  tone : Tone
  intensity : Json
  left : Moment

structure Mood where
  current : Tone
  intensity : Json
  history : List Feeling
  changed : Moment

namespace Mood

/-- A new mood is mildly curious. -/
def new (now : Moment) : Mood := ⟨.emotion .curious, .float 0.5, [], now⟩

/-- At least `low`. -/
def atLeast (low x : Float) : Float := if low < x then x else low

/-- At most `high`. -/
def atMost (high x : Float) : Float := if x < high then x else high

/-- Leave the current emotion behind for another one. -/
def turnTo (m : Mood) (e : Emotion) (now : Moment) : Mood :=
  { m with
    current := .emotion e
    history := m.history ++ [⟨m.current, m.intensity, now⟩] }

/-- Take on an intensity, from a tenth to one. -/
def settle (m : Mood) (intensity : Float) (now : Moment) : Mood :=
  { m with intensity := .float (atLeast 0.1 (atMost 1.0 intensity)), changed := now }

/-- Change to an emotion. -/
def feel (m : Mood) (e : Emotion) (intensity : Float) (now : Moment) : Mood :=
  (m.turnTo e now).settle intensity now

/-- The emotion that is asked for; what names none counts as curious. -/
def requested : Json → Emotion
  | .str s => (Emotion.ofName? s).getD .curious
  | _ => .curious

/-- Change to an emotion that is asked for by name. The old one is left behind even if the
intensity then turns out to be no number. -/
def feelAs (emotion intensity : Json) : ActOn Mood Unit := do
  let now ← (Act.now : Act Moment)
  modify (·.turnTo (requested emotion) now)
  match intensity.quantity? with
  | some q => modify (·.settle q.toFloat now)
  | none => throw (.mismatch (.notOrdered "<" intensity.kindName "float"))

/-- The intensity after the time since the last change, days not counted. -/
def faded (m : Mood) (now : Moment) : Except Fault Float := do
  let seconds := (Span.since now m.changed).secondsWithinDay
  return atLeast 0.3 (← m.intensity.minusReal (0.01 * (Number.ofInt seconds / 60.0)))

/-- The emotions a mood may drift to. -/
def drifts (m : Mood) : Except Mismatch (Emotion × List Emotion) := do
  match ← m.current.emotion? with
  | some e => return e.drifts
  | none => return (.curious, [])

/-- Fade, and now and then change to a neighbouring emotion. -/
def drift : ActOn Mood Unit := do
  let chance {α : Type} (c : Chance α) : ActOn Mood α := (Act.chance c : Act α)
  let now ← (Act.now : Act Moment)
  let intensity ← (MonadExcept.ofExcept ((← get).faded now) : Act Float)
  modify fun m => { m with intensity := .float intensity }
  if ← chance (Chance.happens 0.1) then
    let m ← get
    let (first, rest) ← (Act.look m.drifts : Act (Emotion × List Emotion))
    if ← chance (Chance.happens 0.3) then
      let e ← chance (Chance.pick first rest)
      set (m.feel e (intensity * 0.8) now)

/-- The phrases of a mood. -/
def phrases (m : Mood) : Except Mismatch (String × List String) := do
  match ← m.current.emotion? with
  | some e => return e.phrases
  | none => return ("Processing...", [])

/-- A phrase that shows the mood. -/
def color (m : Mood) : Act String := do
  let (first, rest) ← Act.look m.phrases
  Act.chance (Chance.pick first rest)

/-- How the mood stretches or shortens waiting. -/
def pace (m : Mood) : Except Mismatch Float := do
  match ← m.current.emotion? with
  | some e => return e.pace
  | none => return 1.0

/-! What the tables hold for an emotion. -/

section

variable {m : Mood} {e : Emotion}

theorem drifts_of_emotion (h : m.current = .emotion e) : m.drifts = .ok e.drifts := by
  rw [drifts, h]
  rfl

theorem phrases_of_emotion (h : m.current = .emotion e) : m.phrases = .ok e.phrases := by
  rw [phrases, h]
  rfl

theorem pace_of_emotion (h : m.current = .emotion e) : m.pace = .ok e.pace := by
  rw [pace, h]
  rfl

end

end Mood

end Persona.Psyche
