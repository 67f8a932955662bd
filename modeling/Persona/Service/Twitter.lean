import Persona.World.Act

/-!
# Twitter

Making a client, and looking into what the service answers. The objects that the service answers
with have their fields both as items and as attributes; what lies inside a field is a plain value.
-/

namespace Persona.Twitter

/-- The value of an attribute that must be there. -/
def attr (v : Json) (name : String) : Except Mismatch Json :=
  match v with
  | .obj fs => match Fields.get? fs name with
    | some x => .ok x
    | none => .error (.noAttribute "Tweet" name)
  | v => .error (.noAttribute v.kindName name)

/-- The number that an id stands for. -/
def number (id : Json) : Except Fault Int :=
  match id with
  | .str s => (Text.readInt s).mapError .integer
  | .int n => .ok n
  | .bool b => .ok (if b then 1 else 0)
  | .float x => Fault.wholePart x
  | v => .error (.mismatch (.notWhole v.kindName))

/-- A text field of an answer that is to be searched. -/
def searchable (v : Json) : Except Mismatch String :=
  match v with
  | .str s => .ok s
  | v => .error (.notSearchable v.kindName)

/-- Make a client. -/
def connect (credentials : Credentials) : Act Unit := do
  Act.record (.twitterClient credentials)
  match (← get).twitterClientError with
  | some text => throw (.service text)
  | none => return ()

/-- The credentials of the environment. -/
def credentials : Act Credentials := do
  return {
    apiKey := ← Act.getEnv "TWITTER_API_KEY"
    apiSecret := ← Act.getEnv "TWITTER_API_SECRET"
    accessToken := ← Act.getEnv "TWITTER_ACCESS_TOKEN"
    accessSecret := ← Act.getEnv "TWITTER_ACCESS_SECRET" }

/-- Post a tweet: the id that the service gave it. -/
def post (text : Json) (inReplyTo : Option Json) : Act Json := do
  let (data, _) ← Act.twitter (.createTweet text inReplyTo)
  Act.look (data.field "id")

/-- The mentions of the user since the last one seen. -/
def mentionsSince (last : Option Int) (fields : List String) : Act Json := do
  let user ← Act.getEnv "TWITTER_USER_ID"
  let since : Json := match last with
    | some n => .int n
    | none => .null
  let (data, _) ← Act.twitter (.getMentions none [
    ("id", Json.ofOption user), ("since_id", since), ("tweet_fields", .arr (fields.map .str))])
  return data

/-- The address of a tweet. -/
def statusUrl (id : Json) : String := "https://twitter.com/i/status/" ++ id.text

end Persona.Twitter
