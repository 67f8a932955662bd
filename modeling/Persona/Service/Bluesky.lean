import Persona.World.Act

/-!
# Bluesky

The requests of the service: opening a session, listing notifications and creating a record in the
name of a session.
-/

namespace Persona.Bluesky

def loginUrl : String := "https://bsky.social/xrpc/com.atproto.server.createSession"
def recordUrl : String := "https://bsky.social/xrpc/com.atproto.repo.createRecord"
def notificationsUrl : String :=
  "https://bsky.social/xrpc/app.bsky.notification.listNotifications"

/-- The kind of record that a post is. -/
def postKind : String := "app.bsky.feed.post"

/-- Ask for a session. -/
def login (handle password : Option String) : Act Http.Reply :=
  Act.http {
    method := .post
    url := loginUrl
    json := some (.obj [
      ("identifier", Json.ofOption handle), ("password", Json.ofOption password)]) }

/-- The header that proves a session. -/
def authorization (session : Json) : Act (List (String × String)) := do
  let token ← Act.look (session.field "accessJwt")
  return [("Authorization", "Bearer " ++ token.text)]

/-- Create a post in the name of a session. -/
def createPost (session record : Json) : Act Http.Reply := do
  let headers ← authorization session
  let repo ← Act.look (session.field "did")
  Act.http {
    method := .post
    url := recordUrl
    headers := some headers
    json := some (.obj [
      ("repo", repo), ("collection", .str postKind), ("record", record)]) }

/-- The time of a post made now. -/
def timestamp : Act Json := return .str ((← Act.now).isoText ++ "Z")

end Persona.Bluesky
