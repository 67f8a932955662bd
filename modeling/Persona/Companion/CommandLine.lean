import Persona.Companion.Chat
import Persona.Companion.Help
import Persona.Companion.Issues
import Persona.Companion.Mentions

/-!
# The command line of the companion

One command, and options for the port and for help. Options may be shortened as long as they stay
distinct, and their value may follow an equals sign.
-/

namespace Persona.Companion

inductive Mode where
  | chat
  | discord
  | github
  | twitter
  | all
  deriving DecidableEq, Repr

def modes : List (String × Mode) :=
  [("chat", .chat), ("discord", .discord), ("github", .github), ("twitter", .twitter),
   ("all", .all)]

structure Options where
  mode : Option Mode := none
  port : Int := 5000
  /-- Arguments that nothing takes. -/
  surplus : Bool := false

/-- Why the arguments do not start a run. -/
inductive Refusal where
  | misused
  | helpWanted
  deriving DecidableEq, Repr

/-! ## Kinds of arguments -/

/-- What an argument that starts with a dash stands for. -/
inductive Flag where
  | help
  /-- The call for help, with a value that it cannot take. -/
  | helpWithValue
  | port (value : Option String)
  | unknown

/-- An argument as it stands. -/
inductive Token where
  | value
  | flag (f : Flag)
  /-- Two dashes: all that follows is a value. -/
  | separator

/-- A dash and digits, perhaps with a decimal point: a negative number. One line end may follow. -/
def isNegativeNumber (s : String) : Bool :=
  match s.toList with
  | '-' :: cs =>
    let cs := if cs.getLast? == some '\n' then cs.dropLast else cs
    let tail := cs.dropWhile Text.isDigit
    (!cs.isEmpty && tail.isEmpty) ||
      (match tail with
       | '.' :: digits => !digits.isEmpty && digits.all Text.isDigit
       | _ => false)
  | _ => false

/-- The long option with a name that a text may shorten. -/
def longFlag (text : String) (value : Option String) : Except Refusal (Option Flag) :=
  match Text.startsWith "--help" text, Text.startsWith "--port" text with
  | true, true => .error .misused
  | true, false => .ok (some (if value.isSome then .helpWithValue else .help))
  | false, true => .ok (some (.port value))
  | false, false => .ok none

/-- The short call for help with the letters attached to it, which must all ask for help too. -/
def shortHelp (attached : String) : Flag :=
  if attached.toList.all (· == 'h') then .help else .helpWithValue

/-- The short call for help, with what is attached to its letter, directly or by an equals sign.
After an equals sign there must be something. -/
def shortFlag (s : String) : Option Flag :=
  if s == "-h=" then some .helpWithValue
  else match Text.dropPattern? "-h=".toList s.toList with
    | some rest => some (shortHelp (String.ofList rest))
    | none => (Text.dropPattern? "-h".toList s.toList).map fun rest => shortHelp (String.ofList rest)

/-- The option that an argument names, in full, shortened, or with a value in it. -/
def namedFlag (s : String) : Except Refusal (Option Flag) :=
  if Text.startsWith s "--" then
    match Text.splitOnce s "=" with
    | some (name, value) => longFlag name (some value)
    | none => longFlag s none
  else .ok (shortFlag s)

def Token.ofText (s : String) : Except Refusal Token := do
  if !Text.startsWith s "-" || s == "-" then return .value
  match ← namedFlag s with
  | some f => return .flag f
  | none =>
    if isNegativeNumber s || Text.contains s " " then return .value else return .flag .unknown

/-- The arguments with their kinds. -/
def tokens : List String → Except Refusal (List (String × Token))
  | [] => .ok []
  | s :: rest => do
    if s == "--" then return (s, .separator) :: rest.map (·, .value)
    else return (s, ← Token.ofText s) :: (← tokens rest)

/-! ## Reading -/

/-- Take an argument as the command, or as one too many. -/
def Options.takeValue (o : Options) (s : String) : Except Refusal Options :=
  match o.mode with
  | some _ => .ok { o with surplus := true }
  | none => match Fields.get? modes s with
    | some m => .ok { o with mode := some m }
    | none => .error .misused

def Options.takePort (o : Options) (s : String) : Except Refusal Options :=
  match Text.readInt s with
  | .ok n => .ok { o with port := n }
  | .error _ => .error .misused

/-- Read the arguments in order. A separator belongs to the command if it stands right before or
right after it, and is one argument too many elsewhere. -/
def Options.read (o : Options) : List (String × Token) → Except Refusal Options
  | [] => if o.surplus || o.mode.isNone then .error .misused else .ok o
  | (s, .value) :: (_, .separator) :: rest => do (← o.takeValue s).read rest
  | (s, .value) :: rest => do (← o.takeValue s).read rest
  | (_, .separator) :: rest => { o with surplus := o.surplus || o.mode.isSome }.read rest
  | (_, .flag .help) :: _ => .error .helpWanted
  | (_, .flag .helpWithValue) :: _ => .error .misused
  | (_, .flag (.port (some s))) :: rest => do (← o.takePort s).read rest
  | (_, .flag (.port none)) :: (s, .value) :: rest => do (← o.takePort s).read rest
  | (_, .flag (.port none)) :: _ => .error .misused
  | (_, .flag .unknown) :: rest => { o with surplus := true }.read rest

def parse (arguments : List String) : Except Refusal Options := do
  ({} : Options).read (← tokens arguments)

/-! ## Running -/

/-- Run to the end; a fault, of whatever kind, is dropped. -/
def aside (a : Act Unit) : Act Unit := tryCatch a fun _ => return ()

/-- Everything at once: the chat and the mentions on the side, the requests in front. -/
def runAll (port : Int) : Act Unit := do
  let listener ← listen
  aside joinChat
  aside watchTwitter
  if listener.isSome then Act.record (.serve "0.0.0.0" port)

def run (mode : Mode) (port : Int) : Act Unit := do
  match mode with
  | .chat => chat
  | .discord => joinChat
  | .github =>
    if (← listen).isSome then
      Act.print ("🌀 GitHub webhook server starting on port " ++ Number.intText port)
      Act.record (.serve "0.0.0.0" port)
  | .twitter => watchTwitter
  | .all => runAll port

def program (arguments : List String) : Act Unit := do
  load
  match parse arguments with
  | .ok o => match o.mode with
    | some mode => run mode o.port
    | none => throw (.exit 2)
  | .error .helpWanted =>
    Act.print (Help.text (Help.terminalWidth (← Act.getEnv "COLUMNS")))
    throw (.exit 0)
  | .error .misused => throw (.exit 2)

end Persona.Companion
