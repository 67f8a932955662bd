import Persona.Chance
import Persona.Fault
import Persona.Time.Moment
import Persona.World.Event

/-!
# The world

Everything around the agent: clock, chance, environment variables, files, what each service is
going to answer, what the user is going to type, and the record of what happened.
-/

namespace Persona

namespace Http

/-- A status lies below those of failures. -/
def isBelowFailures (status : Json) : Bool :=
  match Json.compares .less status (.int 400) with
  | .ok b => b
  | .error _ => false

structure Reply where
  status : Json := .int 200
  text : Json := .str ""
  json : Option Json := none
  /-- The reply counts as a success. Which ones do is up to the client library. -/
  ok : Bool := isBelowFailures status

/-- The reply has this status. -/
def Reply.hasStatus (r : Reply) (code : Int) : Bool := r.status.same (.int code)

end Http

namespace Twitter

/-- What the service answers: data with the objects it refers to, or a refusal. -/
inductive Answer where
  | result (data includes : Json)
  | rateLimit (text : String)

end Twitter

/-- How a child process ends. -/
inductive Outcome where
  | notInstalled
  | exited (code : Int) (stdout stderr : Json)

/-- A message in a chat. -/
structure ChatMessage where
  content : Json := .str ""
  /-- The agent is mentioned in it. -/
  mentioned : Bool := false
  /-- It was sent to the agent alone. -/
  direct : Bool := false
  /-- The agent wrote it. -/
  own : Bool := false

/-- The account of the agent in a chat. -/
structure ChatAccount where
  id : Nat := 77
  name : String := "PhiBot#0077"

/-- What the next use of a service brings. -/
inductive Scripted (α : Type) where
  | gives (answer : α)
  | fails (text : String)

/-- Why the system does not start a command. -/
inductive StartError where
  /-- An argument holds a zero, with which arguments end. -/
  | zeroByte
  /-- The arguments take up too much room. -/
  | tooLong

/-- What the system refuses to do. Where nothing is said of it, it refuses nothing. -/
structure System where
  startError? : Command → Option StartError := fun _ => none
  /-- A time is too long to be slept. -/
  isTooLong : Quantity → Bool := fun _ => false
  /-- When the files were last changed. -/
  lastChange : Moment := ⟨0⟩

/-- When a run is stopped from outside: after so many sleeps or log lines, and with a kill switch
put down after a given sleep. -/
structure Limits where
  sleeps : Int := 20
  logs : Int := 200
  kill : Option Int := none

structure World where
  clock : Moment
  draws : Draws
  environment : List (String × String) := []
  files : Files := {}
  http : List (Scripted Http.Reply) := []
  twitter : List (Scripted Twitter.Answer) := []
  /-- What the language model answers; an answer may be without content. -/
  model : List (Scripted (Option Json)) := []
  commands : List (Scripted Outcome) := []
  chat : List ChatMessage := []
  account : ChatAccount := {}
  /-- Lines that the user types; `none` is a request to stop. -/
  input : List (Option String) := []
  /-- Libraries that are not installed. -/
  notInstalled : List String := []
  /-- Making a Twitter client fails with these words. -/
  twitterClientError : Option String := none
  processId : Nat := 4242
  limits : Limits := {}
  system : System := {}
  slept : Int := 0
  logged : Int := 0
  trace : List Event := []

namespace World

def record (w : World) (e : Event) : World := { w with trace := Event.append w.trace e }

end World

/-- An activity: it may change the world and end early with a fault. What it changed before the
fault stays changed. -/
abbrev Act := ExceptT Fault (StateM World)

/-- An activity of a part of the agent that has a state of its own. That state too stays changed
after a fault. -/
abbrev ActOn (σ : Type) := ExceptT Fault (StateT σ (StateM World))

instance {σ : Type} : MonadLiftT Act (ActOn σ) where
  monadLift a := ExceptT.mk (StateT.lift a.run)

namespace ActOn

/-- Run an activity on a part of a larger state. -/
def within {σ τ α : Type} (part : σ → τ) (put : τ → σ → σ) (a : ActOn τ α) : ActOn σ α :=
  fun s w =>
    let ((result, t), w) := a (part s) w
    ((result, put t s), w)

/-- Run an activity from a state: its result and the state after it. -/
def runFrom {σ α : Type} (a : ActOn σ α) (s : σ) : Act (α × σ) :=
  fun w =>
    let ((result, s), w) := a s w
    (result.map (·, s), w)

end ActOn

/-- Carry on after a failure; interruptions and exits pass. -/
def recover {m : Type → Type} [Monad m] [MonadExceptOf Fault m] {α : Type} (body : m α)
    (handler : Fault → m α) : m α :=
  tryCatch body fun f => if f.isFailure then handler f else throw f

end Persona
