import Persona.Psyche.Curiosity
import Persona.Psyche.Reflection
import Persona.Psyche.Rest
import Persona.Psyche.Voice

/-!
# The psyche

Mood, curiosity, reflection and rest together, and what the agent does with them: its heartbeat,
its speech, its choice of what to do next and its journal.
-/

namespace Persona

structure Psyche where
  name : String
  birth : Moment
  mood : Psyche.Mood
  curiosity : Psyche.Curiosity
  reflection : Psyche.Reflection
  rest : Psyche.Rest

namespace Psyche

/-- A name: a Greek letter and a number of four digits. -/
def generateName : Chance String := do
  let letter ← Chance.pick "Phi" ["Lambda", "Sigma", "Mu", "Delta", "Omega"]
  let number ← Chance.between 1000 9999
  return letter ++ "-" ++ Number.intText number

def create (workspace : Path) (now : Moment) : Chance Psyche := do
  return {
    name := ← generateName
    birth := now
    mood := Mood.new now
    curiosity := { workspace }
    reflection := { last := now }
    rest := { last := now } }

/-- A new psyche that works in a folder, which must be named by a text. -/
def settleIn (workspace : Json) : Act Psyche := do
  match workspace with
  | .str s => Act.chance (create (Path.ofText s) (← Act.now))
  | v => throw (.mismatch (.notAFolder v.kindName))

/-- A new psyche is mildly curious, and nothing interests it yet. -/
theorem exists_settleIn (workspace : String) (w : World) :
    ∃ s w', settleIn (.str workspace) w = (.ok s, w') ∧ s.mood = Mood.new w.clock ∧
      s.curiosity = { workspace := Path.ofText workspace } :=
  ⟨_, _, rfl, rfl, rfl⟩

def feel (s : Psyche) (e : Emotion) (intensity : Float) (now : Moment) : Psyche :=
  { s with mood := s.mood.feel e intensity now }

/-- Act on the mood alone. -/
def withMood {α : Type} (a : ActOn Mood α) : ActOn Psyche α :=
  a.within (·.mood) fun mood s => { s with mood }

/-- Act on curiosity alone. -/
def withCuriosity {α : Type} (a : ActOn Curiosity α) : ActOn Psyche α :=
  a.within (·.curiosity) fun curiosity s => { s with curiosity }

/-- Act on rest alone. -/
def withRest {α : Type} (a : ActOn Rest α) : ActOn Psyche α :=
  a.within (·.rest) fun rest s => { s with rest }

/-- Look back if it is time; what is seen may change the mood. -/
def pause (s : Psyche) (now : Moment) : Psyche :=
  let (insight, reflection) := s.reflection.reflect now
  let s := { s with reflection }
  match insight with
  | some .manyFailures => s.feel .reflective 0.6 now
  | some .goingWell => s.feel .content 0.7 now
  | _ => s

/-- One heartbeat: the mood drifts, fatigue grows, and now and then it looks back. -/
def heartbeat : ActOn Psyche Unit := do
  let now ← (Act.now : Act Moment)
  withMood Mood.drift
  let s ← get
  let rest ← (MonadExcept.ofExcept (s.rest.work (Phase.ofMoment now).energy) : Act Rest)
  let s := { s with rest }
  set s
  if ← (Act.chance (s.reflection.isTime now) : Act Bool) then set (s.pause now)

/-- What to speak about. -/
inductive Topic where
  | greeting
  | status (uptime children : Json)
  | error (seenBefore : Bool)
  | success (task : String)
  | thinking
  | other

namespace Topic

/-- The topic of a kind, with what was told along with it. -/
def ofKind (kind : Json) (told : List (String × Json)) : Topic :=
  let part (name : String) (fallback : Json) := (Fields.get? told name).getD fallback
  match kind with
  | .str "greeting" => greeting
  | .str "status" => status (part "uptime" (.int 0)) (part "children" (.int 0))
  | .str "error" => error (part "seen_before" (.bool false)).truthy
  | .str "success" => success (part "task" (.str "something")).text
  | .str "thinking" => thinking
  | _ => other

/-- What to speak about, as it is asked for: the kind may be given by itself or by name, but not
twice. Without one it is the status. -/
def ofRequest (kind : Option Json) (told : Json) : Except Mismatch Topic :=
  match told with
  | .obj fs =>
    let taken := "self" :: (if kind.isSome then ["message_type"] else [])
    match fs.find? fun f => taken.contains f.1 with
    | some (name, _) => .error (.repeatedArgument "Soul.speak" name)
    | none =>
      let kind := kind.getD ((Fields.get? fs "message_type").getD (.str "status"))
      .ok (ofKind kind fs)
  | v => .error (.notArguments "soul.Soul.speak" v.kindName)

end Topic

/-- Speak; errors and successes also change the mood. -/
def speak (topic : Topic) : ActOn Psyche String := do
  let now ← (Act.now : Act Moment)
  let chance (c : Chance String) : ActOn Psyche String := (Act.chance c : Act String)
  let s ← get
  match topic with
  | .greeting => chance (Voice.greet now)
  | .status uptime children => (Voice.status uptime children s.mood : Act String)
  | .error seenBefore =>
    set (s.feel .frustrated 0.6 now)
    chance (Voice.onError seenBefore)
  | .success task =>
    set (s.feel .proud 0.7 now)
    chance (Voice.onSuccess task)
  | .thinking => chance Voice.thinking
  | .other => (s.mood.color : Act String)

/-- What to do next. -/
inductive Intent where
  | rest
  | focus
  | explore
  | create
  | reflect
  | integrate
  | work
  deriving DecidableEq, Repr

def Intent.name : Intent → String
  | rest => "rest"
  | focus => "focus"
  | explore => "explore"
  | create => "create"
  | reflect => "reflect"
  | integrate => "integrate"
  | work => "work"

/-- What the phase of the day is best for. -/
def inclination (now : Moment) : Chance Intent := do
  match (Phase.ofMoment now).quality with
  | .peak => return .focus
  | .creative => if ← Curiosity.shouldExplore now then return .explore else return .create
  | .reflection => return .reflect
  | .windingDown => return .reflect
  | .integration => return .integrate
  | _ => if ← Chance.happens 0.3 then return .explore else return .work

/-- Rest if needed, else what the phase of the day is best for. -/
def decide (s : Psyche) : Act Intent := do
  let now ← Act.now
  if ← Act.look (s.rest.isNeeded now) then return .rest
  Act.chance (inclination now)

/-- A waiting time, in seconds, that varies around a base with mood, energy and chance. -/
def vary (s : Psyche) (base : Json) : Act Float := do
  let energy := (Phase.ofMoment (← Act.now)).energy
  let pace ← Act.look s.mood.pace
  let noise ← Act.chance (Chance.around 1.0 0.15)
  return (← MonadExcept.ofExcept (base.times pace)) * (1.0 / energy) * noise

/-- A line across the journal. -/
def rule : String := String.ofList (List.replicate 67 '═')

def journal (s : Psyche) (now : Moment) : Except Fault String := do
  let phase := Phase.ofMoment now
  let intensity ← s.mood.intensity.percent 1
  let fatigue ← s.rest.fatigue.percent 1
  let status ← (s.rest.status now).mapError .mismatch
  return "\n" ++ rule ++
  "\nJournal of " ++ s.name ++
  "\nAge: " ++ (Span.since now s.birth).text ++
  "\nMood: " ++ s.mood.current.text ++ " (" ++ intensity ++ ")" ++
  "\nEnergy: " ++ Number.percent 1 phase.energy ++
  "\nPhase: " ++ phase.name ++
  "\nFatigue: " ++ fatigue ++
  "\n" ++ rule ++
  "\n\n" ++ s.reflection.journalEntry ++
  "\n\nCurrently fascinated by: " ++ fascination ++
  "\n\n" ++ status ++
  "\n\n" ++ rule ++ "\n"
where
  /-- What counts as nothing is none. -/
  fascination : String :=
    if s.curiosity.fascination.truthy then s.curiosity.fascination.text
    else "nothing in particular"

end Psyche

end Persona
