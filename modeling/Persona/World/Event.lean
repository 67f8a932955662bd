import Persona.Json.Basic

/-!
# Events

What the agent does to the world around it, in the order in which it happens.
-/

namespace Persona

namespace Http

inductive Method where
  | get
  | post
  deriving DecidableEq, Repr

/-- A request, with those of its parts that were given. -/
structure Request where
  method : Method
  url : String
  headers : Option (List (String × String)) := none
  json : Option Json := none
  form : Option Json := none
  query : Option Json := none

end Http

namespace Twitter

/-- The keys of an account; a key that is not set is absent. -/
structure Credentials where
  apiKey : Option String
  apiSecret : Option String
  accessToken : Option String
  accessSecret : Option String
  /-- Present for clients that also read with a bearer token. -/
  bearerToken : Option (Option String) := none

inductive Call where
  | createTweet (text : Json) (inReplyTo : Option Json)
  | getMe (userFields : Option (List String))
  /-- The mentions of a user, given by position or among the named arguments. -/
  | getMentions (user : Option Json) (named : List (String × Json))

end Twitter

/-- A question to the language model. -/
structure Prompt where
  model : String
  maxTokens : Nat
  system : String
  message : Json

/-- A child process to run, with those of its options that were given. -/
structure Command where
  arguments : List String
  folder : Option String := none
  captured : Bool := false

inductive Severity where
  | info
  | error
  deriving DecidableEq, Repr

inductive Event where
  | out (text : String)
  | log (severity : Severity) (message : String)
  /-- A sleep of so many seconds, whatever was given for them. -/
  | sleep (seconds : Json)
  | http (request : Http.Request)
  | twitterClient (credentials : Twitter.Credentials)
  | twitter (call : Twitter.Call)
  | prompt (question : Prompt)
  | run (command : Command)
  | discordStart (token : Option String)
  | typing
  | reply (text : Json)
  | processCommands (content : Json)
  | serve (host : String) (port : Int)

namespace Event

/-- Put an event at the end; text printed right after other text joins it. -/
def append (trace : List Event) (e : Event) : List Event :=
  match e, trace.getLast? with
  | out new, some (out old) => trace.dropLast ++ [out (old ++ new)]
  | e, _ => trace ++ [e]

end Event

end Persona
