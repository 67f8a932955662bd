import Persona.Delivery.Exchange
import Persona.Environment
import Persona.Service.Twitter

/-!
# News of pushes

A signed request may tell of commits pushed to a repository. The agent tweets the latest of them.
-/

namespace Persona.Delivery

/-- The first line of a text. -/
def firstLine (s : String) : String := String.ofList (s.toList.takeWhile (· != '\n'))

/-- The tweet about a push; none without commits. -/
def pushTweet (payload : Json) : Except Mismatch (Option String) := do
  let repository ← payload.fieldOr "repository" (.obj [])
  let repo ← repository.fieldOr "full_name" (.str "unknown")
  let commits ← payload.fieldOr "commits" (.arr [])
  unless commits.truthy do return none
  let commit ← commits.last
  let message ← (← commit.fieldOr "message" (.str "")).asText "split"
  let author ← (← commit.fieldOr "author" (.obj [])).fieldOr "name" (.str "unknown")
  let url ← repository.fieldOr "html_url" (.str "")
  return some ("🔄 Push to " ++ repo.text ++ "\n\n" ++ Text.take 100 (firstLine message) ++
    "\n\nby " ++ author.text ++ "\n\n" ++ url.text)

/-- Tweet about a push. -/
def announce (tweet : String) : Act Response :=
  recover
    (do
      Twitter.connect (← Twitter.credentials)
      let id ← Twitter.post (.str (Text.take 280 tweet)) none
      Act.print ("✅ Tweeted push: " ++ id.text)
      return { status := 200, json := some (.obj [("status", .str "tweeted"), ("id", id)]) })
    fun f => do
      Act.print ("❌ Tweet failed: " ++ f.message)
      return { status := 500, json := some (.obj [("error", .str f.message)]) }

def ignored (event : Option String) : Response :=
  { status := 200
    json := some (.obj [("status", .str "ignored"), ("event", Json.ofOption event)]) }

/-- The secret that signs requests. -/
def secret : Act String := Act.getEnvOr "GITHUB_WEBHOOK_SECRET" ""

def handlePush (a : Arrival) : Act Response := do
  whenSigned (← secret) a fun payload => do
    if a.event? == some "push" then
      match ← Act.look (pushTweet payload) with
      | some tweet => announce tweet
      | none => return ignored a.event?
    else return ignored a.event?

def site : Site where
  endpoints := [
    ⟨"POST", "/webhook/github", handlePush⟩,
    ⟨"GET", "/health", fun _ =>
      return { status := 200, json := some (.obj [("status", .str "ok")]) }⟩]
  folder := some "static"

def load : Act Unit := do
  Act.need "flask"
  Act.need "tweepy"
  Environment.load

/-- Listen for requests. -/
def program : Act Unit := do
  load
  let port ← match ← Act.getEnv "PORT" with
    | none => pure 5000
    | some text => match Text.readInt text with
      | .ok n => pure n
      | .error e => throw (.integer e)
  Act.record (.serve "0.0.0.0" port)

end Persona.Delivery
