import Persona.World.Basic

/-!
# Basic activities

The ways in which the agent touches the world. Each use of a service is first recorded and then
answered by the next scripted answer.
-/

namespace Persona

/-- A setting that is there and not empty. -/
def isSet (setting : Option String) : Bool :=
  match setting with
  | some s => !s.isEmpty
  | none => false

namespace Act

def record (e : Event) : Act Unit := modify (·.record e)

/-- Take a chance. -/
def chance {α : Type} (c : Chance α) : Act α := do
  let w ← get
  let (a, draws) := c w.draws
  set { w with draws }
  return a

/-- Look into a value. -/
def look {α : Type} : Except Mismatch α → Act α
  | .ok a => pure a
  | .error e => throw (.mismatch e)

/-- A value as text; a whole number must not have too many digits. -/
def shown (v : Json) : Act String :=
  match v with
  | .int n =>
    if Number.tenPow Text.digitLimit ≤ n.natAbs then throw .tooManyDigits else pure v.text
  | v => pure v.text

/-- The bytes of a text, which must not hold half of a pair. -/
def encode (text : String) : Act (List UInt8) :=
  match Text.bytes? text with
  | some bytes => pure bytes
  | none => throw (.unencodable text)

/-! ## Clock, output, log -/

def now : Act Moment := return (← get).clock

/-- Print text as it is. -/
def write (text : String) : Act Unit := record (.out text)

/-- Print a line. -/
def print (text : String) : Act Unit := write (text ++ "\n")

/-- The file that stops every posting loop. -/
def killSwitch : Path := Path.home.join "kill.switch"

/-- Move the clock on by so many microseconds. -/
def passTime (micros : Int) : Act Unit := do
  match (← get).clock.add? micros with
  | .ok clock => modify fun w => { w with clock }
  | .error e => throw (.clockRange e)

/-- Sleep for so many seconds, which must be a number, not too great a one and not negative. The
clock moves on; after the last sleep allowed the user interrupts. -/
def sleepFor (seconds : Json) : Act Unit := do
  record (.sleep seconds)
  match seconds.quantity? with
  | none => throw (.mismatch (.notOrdered "<" seconds.kindName "int"))
  | some q =>
    if (← get).system.isTooLong q then throw .sleepTooLong
    if q.isNegative then throw .negativeSleep
    match q.microseconds with
    | .ok micros => passTime micros
    | .error e => throw (.cut e)
  modify fun w => { w with slept := w.slept + 1 }
  let w ← get
  if w.limits.kill == some w.slept then
    set { w with files := w.files.put ["kill.switch"] "" }
  if w.limits.sleeps ≤ w.slept then throw .interrupted

/-- Sleep for so many seconds. -/
def sleep (seconds : Quantity) : Act Unit := sleepFor (Json.ofQuantity seconds)

/-- Write a log line. At the last one allowed the user interrupts. -/
def log (severity : Severity) (message : String) : Act Unit := do
  record (.log severity message)
  modify fun w => { w with logged := w.logged + 1 }
  let w ← get
  if w.logged == w.limits.logs then throw .interrupted

/-! ## Environment -/

def getEnv (name : String) : Act (Option String) := do
  return Fields.get? (← get).environment name

def getEnvOr (name fallback : String) : Act String := do
  return (← getEnv name).getD fallback

def hasNul (s : String) : Bool := s.toList.contains (Char.ofNat 0)

/-- Set a variable. Its name must not be empty, and neither text may hold a NUL. -/
def setEnv (name value : String) : Act Unit := do
  if hasNul name || hasNul value then throw .nulByte
  if name.isEmpty then throw .invalidArgument
  modify fun w => { w with environment := Fields.put w.environment name value }

/-! ## Files -/

/-- The fault of a path that cannot be used. -/
def fileFault (cause : Files.Cause) (p : Path) : Fault :=
  match cause with
  | .nulByte => .nulByte
  | cause => .file cause p.text

def fileExists (p : Path) : Act Bool := do
  match (← get).files.exists? p with
  | .ok b => return b
  | .error c => throw (fileFault c p)

/-- The text of a file, its line ends unified. -/
def readFile (p : Path) : Act String := do
  match (← get).files.read p with
  | .ok s => return String.ofList (Text.unifyLineEnds s.toList)
  | .error c => throw (fileFault c p)

/-- Whether a path, given as it was written, names anything. -/
def existsWritten (path : String) : Act Bool := do
  let tree := (← get).files
  match tree.locateWritten path with
  | .ok place => return tree.holds place
  | .error _ => return false

/-- The text of a file whose path is given, and shown in faults, as it was written. -/
def readWritten (path : String) : Act String := do
  let tree := (← get).files
  match tree.locateWritten path >>= tree.readPlace with
  | .ok s => return String.ofList (Text.unifyLineEnds s.toList)
  | .error .nulByte => throw .nulByte
  | .error c => throw (.file c path)

/-- Write a file. One whose text has no bytes is left empty. -/
def writeFile (p : Path) (text : String) : Act Unit := do
  let bad := (Text.halves? text).isSome
  match (← get).files.write p (if bad then "" else text) with
  | .ok files => modify fun w => { w with files }
  | .error c => throw (fileFault c p)
  if bad then throw (.unencodable text)

/-- Open a file for adding to it: it is made if it is not there. -/
def openFile (p : Path) : Act Unit := do
  match (← get).files.read p with
  | .ok _ => return ()
  | .error .missing => writeFile p ""
  | .error c => throw (fileFault c p)

/-- Make a folder below an existing one; one that is there already is kept. -/
def makeFolder (p : Path) : Act Unit := do
  let tree := (← get).files
  match tree.makeFolder p with
  | .ok files => modify fun w => { w with files }
  | .error c =>
    match tree.keepFolder p c with
    | .ok _ => return ()
    | .error (c, here) => throw (fileFault c here)

/-- Make a folder and those above it. -/
def makeFolders (p : Path) : Act Unit := do
  match (← get).files.makeFolders p with
  | .ok files => modify fun w => { w with files }
  | .error (c, here) => throw (fileFault c here)

/-! ## Services -/

/-- The next message of the chat, which is taken from the queue. -/
def nextMessage : Act (Option ChatMessage) := do
  match (← get).chat with
  | [] => return none
  | next :: rest =>
    modify fun w => { w with chat := rest }
    return some next

/-- Take the messages of the chat one after the other. A fault leaves those that are to come. -/
def eachMessage (take : ChatMessage → Act Unit) : Act Unit := do
  (← get).chat.forM fun _ => do
    match ← nextMessage with
    | some m => take m
    | none => return ()

/-- Reply in the chat. -/
def reply (text : String) : Act Unit := record (.reply (.str text))

/-- The next answer of a script. -/
def answer {α : Type} : Scripted α → Act α
  | .gives a => pure a
  | .fails text => throw (.service text)

def unanswered {α : Type} : Act α := throw (.service "no scripted response")

def http (request : Http.Request) : Act Http.Reply := do
  record (.http request)
  match (← get).http with
  | [] => unanswered
  | next :: rest =>
    modify fun w => { w with http := rest }
    answer next

/-- The JSON body of a reply. -/
def body (r : Http.Reply) : Act Json :=
  match r.json with
  | some v => pure v
  | none => throw .noBody

/-- Fail unless the reply is a success. -/
def requireOk (r : Http.Reply) : Act Unit :=
  if r.ok then pure () else throw (.service ("HTTP " ++ r.status.text))

/-- Data of a Twitter answer with the objects it refers to. -/
def twitter (call : Twitter.Call) : Act (Json × Json) := do
  record (.twitter call)
  match (← get).twitter with
  | [] => unanswered
  | next :: rest =>
    modify fun w => { w with twitter := rest }
    match ← answer next with
    | .result data includes => return (data, includes)
    | .rateLimit text => throw (.rateLimited text)

/-- Ask the language model: the content of its answer. -/
def ask (question : Prompt) : Act Json := do
  record (.prompt question)
  match (← get).model with
  | [] => unanswered
  | next :: rest =>
    modify fun w => { w with model := rest }
    match ← answer next with
    | some content => return content
    | none => throw (.mismatch .outOfRange)

/-- The fault of a command that is not started. -/
def startFault (command : Command) : StartError → Fault
  | .zeroByte => .nulByte
  | .tooLong => .argumentsTooLong (command.arguments.headD "")

/-- Run a command and wait for its end, which must be a success: its output. -/
def execute (command : Command) : Act Json := do
  if let some e := (← get).system.startError? command then throw (startFault command e)
  record (.run command)
  match (← get).commands with
  | [] => unanswered
  | next :: rest =>
    modify fun w => { w with commands := rest }
    match ← answer next with
    | .notInstalled => throw (.file .missing (command.arguments.headD ""))
    | .exited code stdout stderr =>
      if code == 0 then return stdout else throw (.command command.arguments code stderr)

/-- A line that the user types after a prompt. -/
def readLine (prompt : String) : Act String := do
  write prompt
  match (← get).input with
  | [] => throw .endOfInput
  | next :: rest =>
    modify fun w => { w with input := rest }
    match next with
    | some line => return line
    | none => throw .interrupted

/-- The number of sleeps that are left before the user interrupts, at least one. A loop that
sleeps in every round makes no more rounds than this. -/
def sleepsLeft : Act Nat := do
  let w ← get
  return (w.limits.sleeps - w.slept).toNat + 1

/-- The number of log lines that are left before the user interrupts, at least one. -/
def logsLeft : Act Nat := do
  let w ← get
  return (w.limits.logs - w.logged).toNat + 1

/-- Repeat a round on a state until it gives none, at most `rounds` times; after that the user
interrupts. -/
def rounds {σ : Type} (round : σ → Act (Option σ)) : Nat → σ → Act Unit
  | 0, _ => throw .interrupted
  | n + 1, s => do
    match ← round s with
    | some s => rounds round n s
    | none => return ()

end Act

/-- Repeat an activity, at most `rounds` times; after that the user interrupts. -/
def ActOn.forever {σ : Type} (a : ActOn σ Unit) : Nat → ActOn σ Unit
  | 0 => throw .interrupted
  | rounds + 1 => do
    a
    forever a rounds

namespace Act

/-- Fail unless a library is installed. -/
def need (library : String) : Act Unit := do
  if (← get).notInstalled.contains library then throw (.notInstalled library)

def isInstalled (library : String) : Act Bool := do
  return !(← get).notInstalled.contains library

end Act

end Persona
