import Persona.Json.Writer
import Persona.Lineage.Settings
import Persona.Psyche.Basic
import Persona.Signature.Hmac

/-!
# A member of the lineage

An agent of some generation: its birth, the children it prepares, its examination of itself and
its end.
-/

namespace Persona.Lineage

structure Member where
  /-- The founder has generation zero. Whoever starts a member names its generation, in whatever
  shape. -/
  generation : Json
  settings : Json
  id : String
  /-- The names of the children prepared so far. -/
  children : List String := []
  born : Moment
  psyche : Option Psyche

/-- The day on which the founder was let loose. -/
def unleashed : String := "2026-01-01"

/-- The file that also takes the log. It is there as soon as the program is loaded. -/
def logFile : Path := Path.home.join "phi_daemon.log"

/-- Whether there is a psyche; without one the agent warns once. -/
def load : Act Bool := do
  let hasPsyche ← Act.isInstalled "soul"
  unless hasPsyche do
    Act.print "Warning: soul.py not found. Running without human-like patterns."
  Act.openFile logFile
  return hasPsyche

/-- The first sixteen digits of a digest of birth, generation and process. -/
def makeId (born : Moment) (generation : String) (processId : Nat) : Act String := do
  let bytes ← Act.encode (born.isoText ++ "_" ++ generation ++ "_" ++ Number.natText processId)
  return Text.take 16 (Text.hexOfBytes (Sha256.digest bytes))

def awaken (now : Moment) : Act Psyche := do
  let psyche ← Act.chance (Psyche.create Path.home now)
  Act.log .info ("Soul awakened: " ++ psyche.name)
  let (greeting, psyche) ← (Psyche.speak .greeting).runFrom psyche
  Act.log .info greeting
  return psyche

def birth (hasPsyche : Bool) (settingsPath generation : Json) : Act Member := do
  let settings ← loadSettings settingsPath
  let born ← Act.now
  let shown ← Act.shown generation
  let id ← makeId born shown (← get).processId
  let psyche ← if hasPsyche then some <$> awaken born else pure none
  Act.log .info ("Φ-DAEMON initialized - Generation: " ++ shown ++ ", ID: " ++ id)
  return { generation, settings, id, born, psyche }

namespace Member

abbrev Life := ActOn Member

def info (message : String) : Life Unit := (Act.log .info message : Act Unit)

def error (message : String) : Life Unit := (Act.log .error message : Act Unit)

def now : Life Moment := (Act.now : Act Moment)

def chance {α : Type} (c : Chance α) : Life α := (Act.chance c : Act α)

/-- Act on a psyche, which becomes the member's own. -/
def withPsyche {α : Type} (psyche : Psyche) (a : ActOn Psyche α) : Life α :=
  a.within (fun _ => psyche) fun psyche m => { m with psyche := some psyche }

/-- Feel something, with a psyche. -/
def feel (e : Psyche.Emotion) (intensity : Float) : Life Unit := do
  let time ← now
  modify fun (m : Member) => { m with psyche := m.psyche.map (·.feel e intensity time) }

/-- The psyche speaks into the log. -/
def speak (psyche : Psyche) (topic : Psyche.Topic) : Life Unit := do
  info (← withPsyche psyche (Psyche.speak topic))

/-- A setting, with the value it has when it is missing. -/
def setting (key : String) (fallback : Json) : Life Json := do
  let m : Member ← get
  (Act.look (m.settings.fieldOr key fallback) : Act Json)

def childrenCount : Life String := do
  let m : Member ← get
  return Number.natText m.children.length

/-! ## Children -/

/-- Prepare a child: a folder with the settings, and a name from generation, place and second. -/
def prepareChild (generation index : Json) : Life String := do
  let m : Member ← get
  let place := generation.text ++ "_" ++ index.text
  let folder := Path.ofText ("phi_gen_" ++ place)
  (Act.makeFolder folder : Act Unit)
  (Act.writeFile (folder.join "config.json") m.settings.encodeIndented : Act Unit)
  let id := "PHI-" ++ generation.text ++ "-" ++ index.text ++ "-" ++
    Number.intText (← now).wholeSecond
  info ("Child " ++ id ++ " prepared in " ++ folder.text)
  return id

/-- Prepare one child of so many; a failure is logged. -/
def raiseChild (generation count : Json) (index : Nat) : Life Unit := do
  let ordinal := Number.natText (index + 1)
  recover
    (do
      let id ← prepareChild generation (.int index)
      modify fun (m : Member) => { m with children := m.children ++ [id] }
      info ("Successfully spawned child " ++ ordinal ++ "/" ++ count.text ++ ": " ++ id))
    fun f => error ("Failed to spawn child " ++ ordinal ++ ": " ++ f.message)

/-- Prepare the children from a place on, `left` of them. -/
def raiseChildren (generation count : Json) : Nat → Nat → Life Unit
  | 0, _ => return ()
  | left + 1, index => do
    raiseChild generation count index
    raiseChildren generation count left (index + 1)

/-- Prepare the next generation, unless the settings forbid it or it would be one too many:
whether there are any children now. -/
def deploy : Life Bool := do
  unless (← setting "recursive_deploy" (.bool false)).truthy do
    info "Recursive deployment disabled in config"
    return false
  let most ← setting "max_generations" (.int 3)
  let m : Member ← get
  if ← (Act.look (Json.compares .atLeast m.generation most) : Act Bool) then
    info ("Maximum generation (" ++ most.text ++ ") reached, stopping recursion")
    return false
  let next ← (MonadExcept.ofExcept (m.generation.plus (.int 1)) : Act Json)
  let count ← (MonadExcept.ofExcept (childCount m.settings m.generation) : Act Json)
  let nextText ← (Act.shown next : Act String)
  info ("Deploying " ++ count.text ++ " child instances (Generation " ++ nextText ++ ")")
  match count.whole? with
  | some n => raiseChildren next count n.toNat 0
  | none => throw (.mismatch (.notACount count.kindName))
  let m : Member ← get
  return !m.children.isEmpty

/-! ## Self-examination -/

/-- The seconds since birth. -/
def uptime (m : Member) (now : Moment) : Float :=
  let micros := (Span.since now m.born).micros
  Number.ofRatio (micros < 0) micros.natAbs Moment.perSecond.toNat

def report (m : Member) (uptime : Float) : List (String × Json) :=
  [("daemon_id", .str m.id), ("generation", m.generation), ("uptime_seconds", .float uptime),
   ("children_count", .int m.children.length), ("children_ids", .arr (m.children.map .str)),
   ("config", m.settings), ("status", .str "operational"), ("unleashed_date", .str unleashed)]

def psycheReport (psyche : Psyche) (now : Moment) : Json :=
  let phase := Psyche.Phase.ofMoment now
  .obj [("name", .str psyche.name), ("mood", psyche.mood.current.json),
    ("mood_intensity", psyche.mood.intensity), ("energy", .float phase.energy),
    ("phase", .str phase.name), ("fatigue", psyche.rest.fatigue)]

/-- Examine itself: a report; with a psyche, after a heartbeat and in its own words. -/
def examine : Life Json := do
  let m : Member ← get
  let time ← now
  let uptime := m.uptime time
  match m.psyche with
  | some psyche =>
    let psyche ← withPsyche psyche (do Psyche.heartbeat; get)
    let report := m.report uptime ++ [("soul", psycheReport psyche time)]
    speak psyche (.status (.float uptime) (.int m.children.length))
    return .obj report
  | none =>
    info "Self-check complete: operational"
    return .obj (m.report uptime)

/-! ## The end -/

def shutdown : Life Unit := do
  let m : Member ← get
  match m.psyche with
  | some psyche => info (← (do MonadExcept.ofExcept (psyche.journal (← Act.now)) : Act String))
  | none => pure ()
  info ("Φ-DAEMON " ++ m.id ++ " shutting down...")
  info ("Final status: Generation " ++ m.generation.text ++ ", " ++ (← childrenCount) ++
    " children spawned")
  if m.psyche.isSome then
    feel .peaceful 0.5
    info "Going to sleep now. Goodnight."
  info "Shutdown complete"

end Member

end Persona.Lineage
