import Persona.Mention.Cursor
import Persona.Service.Bluesky
import Persona.Service.Twitter

/-!
# Inboxes

Where mentions arrive: one inbox per platform, each with a cursor that tells what was seen last.
A check moves the cursor to the newest mention and stores it before the mentions are taken apart.
A check or a reply that fails says so and gives nothing.
-/

namespace Persona.Mention

/-- The text of a reply, addressed to the author of a mention. -/
def address (mention : Json) (text : String) (limit : Nat) : Act String := do
  let author ← Act.look (mention.field "author")
  return Text.take limit ("@" ++ author.text ++ " " ++ text)

/-! ## Twitter -/

structure TwitterInbox where
  lastSeen : Json := .null

namespace TwitterInbox

def key : String := "twitter_last_id"

def load : ActOn TwitterInbox Unit := do
  match ← (Cursor.load key : Act (Option Json)) with
  | some v => modify fun s => { s with lastSeen := v }
  | none => return ()

def save : ActOn TwitterInbox Unit := do
  Cursor.saveFirst key (← get).lastSeen

/-- Make a client that can also read; false when it cannot be made. -/
def connect : Act Bool :=
  recover (do
    Act.need "tweepy"
    let credentials ← Twitter.credentials
    Twitter.connect { credentials with
      bearerToken := some (← Act.getEnv "TWITTER_BEARER_TOKEN") }
    return true) fun f => do
      Act.print ("Twitter client error: " ++ f.message)
      return false

/-- The names of users by their ids, the later of two with the same id first. -/
def userNames (includes : Json) : Except Mismatch (List (Json × Json)) := do
  let users ← if includes.truthy then includes.fieldOr "users" (.arr []) else .ok (.arr [])
  let pairs ← (← users.items).mapM fun u => do
    let id ← Twitter.attr u "id"
    let name ← Twitter.attr u "username"
    return (← id.lookable, name)
  return pairs.reverse

/-- A tweet as a mention. -/
def mention (names : List (Json × Json)) (tweet : Json) : Except Mismatch Json := do
  let id ← Twitter.attr tweet "id"
  let text ← Twitter.attr tweet "text"
  let authorId ← (← Twitter.attr tweet "author_id").lookable
  let author := ((names.find? fun n => n.1.sameKey authorId).map (·.2)).getD (.str "unknown")
  let conversation ← Twitter.attr tweet "conversation_id"
  return .obj [
    ("id", id), ("text", text), ("author", author), ("conversation_id", conversation)]

/-- Ask for the mentions after the last one seen. -/
def fetch : ActOn TwitterInbox (List Json) := do
  let (me, _) ← (Act.twitter (.getMe none) : Act (Json × Json))
  if !me.truthy then return []
  let lastSeen := (← get).lastSeen
  let since := if lastSeen.truthy then [("since_id", lastSeen)] else []
  let user ← (Act.look (Twitter.attr me "id") : Act Json)
  let named := [("expansions", Json.str "author_id"),
    ("tweet.fields", .str "created_at,conversation_id")] ++ since
  let (data, includes) ← (Act.twitter (.getMentions (some user) named) : Act (Json × Json))
  if !data.truthy then return []
  let newest ← (Act.look (data.first >>= (Twitter.attr · "id")) : Act Json)
  modify fun s => { s with lastSeen := newest }
  save
  let mentions := do
    let names ← userNames includes
    (← data.items).mapM (mention names)
  (Act.look mentions : Act (List Json))

def check : ActOn TwitterInbox (List Json) := do
  if ← connect then
    recover fetch fun f => do
      Act.print ("Error fetching mentions: " ++ f.message)
      return []
  else return []

/-- Reply to a mention: the address of the reply. -/
def reply (mention : Json) (text : String) : Act Json := do
  if ← connect then
    recover (do
      let text ← address mention text 280
      let id ← Act.look (mention.field "id")
      return .str (Twitter.statusUrl (← Twitter.post (.str text) (some id)))) fun f => do
        Act.print ("Error replying: " ++ f.message)
        return .null
  else return .null

end TwitterInbox

/-! ## Mastodon -/

structure MastodonInbox where
  lastSeen : Json := .null
  /-- The address of the server. -/
  server : String

namespace MastodonInbox

def key : String := "mastodon_last_id"

def load : ActOn MastodonInbox Unit := do
  match ← (Cursor.load key : Act (Option Json)) with
  | some v => modify fun s => { s with lastSeen := v }
  | none => return ()

def save : ActOn MastodonInbox Unit := do
  Cursor.save key (← get).lastSeen

/-- The header that proves the account; absent without a token. -/
def headers : Act (Option (List (String × String))) := do
  match ← Act.getEnv "MASTODON_ACCESS_TOKEN" with
  | some token =>
    return if token.isEmpty then none else some [("Authorization", "Bearer " ++ token)]
  | none => return none

/-- The notifications that are mentions. -/
def mentionsOf (notifications : Json) : Except Mismatch (List Json) := do
  (← notifications.items).filterM fun n => do
    return (← n.fieldOrNull "type").same (.str "mention")

/-- A notification as a mention. -/
def mention (n : Json) : Except Mismatch Json := do
  let status ← n.field "status"
  let id ← status.field "id"
  let text ← status.fieldOr "content" (.str "")
  let author ← (← n.field "account").field "acct"
  let visibility ← status.fieldOr "visibility" (.str "public")
  return .obj [("id", id), ("text", text), ("author", author), ("visibility", visibility)]

/-- Ask for the notifications after the last mention seen. -/
def fetch (headers : List (String × String)) : ActOn MastodonInbox (List Json) := do
  let s ← get
  let since := if s.lastSeen.truthy then [("since_id", s.lastSeen)] else []
  let reply ← (Act.http {
    method := .get
    url := s.server ++ "/api/v1/notifications"
    headers := some headers
    query := some (.obj ([("limit", .int 20)] ++ since)) } : Act Http.Reply)
  if !reply.ok then return []
  let body ← (Act.body reply : Act Json)
  let mentions ← (Act.look (mentionsOf body) : Act (List Json))
  match mentions with
  | [] => return []
  | newest :: _ =>
    let id ← (Act.look (newest.field "id") : Act Json)
    modify fun s => { s with lastSeen := id }
    save
    (Act.look (mentions.mapM mention) : Act (List Json))

def check : ActOn MastodonInbox (List Json) := do
  match ← (headers : Act (Option (List (String × String)))) with
  | none => return []
  | some headers =>
    recover (fetch headers) fun f => do
      Act.print ("Error fetching Mastodon mentions: " ++ f.message)
      return []

/-- Reply to a mention: the address of the reply. -/
def reply (server : String) (mention : Json) (text : String) : Act Json := do
  match ← headers with
  | none => return .null
  | some headers =>
    recover (do
      let text ← address mention text 500
      let id ← Act.look (mention.field "id")
      let visibility ← Act.look (mention.fieldOr "visibility" (.str "public"))
      let reply ← Act.http {
        method := .post
        url := server ++ "/api/v1/statuses"
        headers := some headers
        form := some (.obj [
          ("status", .str text), ("in_reply_to_id", id), ("visibility", visibility)]) }
      if reply.ok then Act.look ((← Act.body reply).fieldOrNull "url") else return .null) fun f => do
        Act.print ("Error replying on Mastodon: " ++ f.message)
        return .null

end MastodonInbox

/-! ## Bluesky -/

structure BlueskyInbox where
  lastSeen : Json := .null
  /-- Null as long as there is no session. -/
  session : Json := .null

namespace BlueskyInbox

def key : String := "bluesky_last_time"

def load : ActOn BlueskyInbox Unit := do
  match ← (Cursor.load key : Act (Option Json)) with
  | some v => modify fun s => { s with lastSeen := v }
  | none => return ()

def save : ActOn BlueskyInbox Unit := do
  Cursor.save key (← get).lastSeen

/-- Open a session: the session, null when it failed. -/
def login : ActOn BlueskyInbox Json := do
  let handle ← (Act.getEnv "BLUESKY_HANDLE" : Act (Option String))
  let password ← (Act.getEnv "BLUESKY_APP_PASSWORD" : Act (Option String))
  if !(isSet handle && isSet password) then return .null
  recover (do
    let reply ← (Bluesky.login handle password : Act Http.Reply)
    if reply.ok then
      let session ← (Act.body reply : Act Json)
      modify fun s => { s with session }
      return session
    else return .null) fun f => do
      Act.print ("Bluesky login error: " ++ f.message)
      return .null

/-- Make sure of a session: false when there is none. -/
def ensureSession : ActOn BlueskyInbox Bool := do
  if !(← get).session.truthy then discard login
  return (← get).session.truthy

/-- The notifications that are mentions. -/
def mentionsOf (body : Json) : Except Mismatch (List Json) := do
  (← (← body.fieldOr "notifications" (.arr [])).items).filterM fun n => do
    return (← n.fieldOrNull "reason").same (.str "mention")

/-- A notification as a mention. -/
def mention (n : Json) : Except Mismatch Json := do
  let uri ← n.fieldOrNull "uri"
  let cid ← n.fieldOrNull "cid"
  let record ← n.fieldOr "record" (.obj [])
  let text ← record.fieldOr "text" (.str "")
  let author ← (← n.fieldOr "author" (.obj [])).fieldOr "handle" (.str "unknown")
  let parent ← (← record.fieldOr "reply" (.obj [])).fieldOrNull "parent"
  return .obj [
    ("uri", uri), ("cid", cid), ("text", text), ("author", author), ("reply_parent", parent)]

/-- The mentions that are newer than the cursor; all of them when there is no cursor. -/
def newer (lastSeen : Json) : List Json → Except Mismatch (List Json)
  | [] => .ok []
  | n :: rest => do
    let isNew ← if lastSeen.truthy then Json.compares .greater (← n.fieldOr "indexedAt" (.str "")) lastSeen
      else .ok true
    if isNew then
      let m ← mention n
      return m :: (← newer lastSeen rest)
    else newer lastSeen rest

/-- Ask for the notifications; the cursor moves to the newest mention, and only what is newer than
that is given. -/
def fetch : ActOn BlueskyInbox (List Json) := do
  let headers ← (Bluesky.authorization (← get).session : Act (List (String × String)))
  let reply ← (Act.http {
    method := .get
    url := Bluesky.notificationsUrl
    headers := some headers
    query := some (.obj [("limit", .int 20)]) } : Act Http.Reply)
  if !reply.ok then return []
  let body ← (Act.body reply : Act Json)
  let mentions ← (Act.look (mentionsOf body) : Act (List Json))
  match mentions with
  | [] => pure ()
  | newest :: _ =>
    let time ← (Act.look (newest.fieldOrNull "indexedAt") : Act Json)
    modify fun s => { s with lastSeen := time }
    save
  (Act.look (newer (← get).lastSeen mentions) : Act (List Json))

def check : ActOn BlueskyInbox (List Json) := do
  if ← ensureSession then
    recover fetch fun f => do
      Act.print ("Error fetching Bluesky mentions: " ++ f.message)
      return []
  else return []

/-- Reply to a mention in the name of a session. -/
def replyAs (session mention : Json) (text : String) : Act Json := do
  let text ← address mention text 300
  let uri ← Act.look (mention.field "uri")
  let cid ← Act.look (mention.field "cid")
  let reference := Json.obj [("uri", uri), ("cid", cid)]
  let reply ← Bluesky.createPost session (.obj [
    ("text", .str text),
    ("reply", .obj [("root", reference), ("parent", reference)]),
    ("createdAt", ← Bluesky.timestamp),
    ("$type", .str Bluesky.postKind)])
  return if reply.ok then .str "Bluesky: replied" else .null

/-- Reply to a mention: a note that it was done. -/
def reply (mention : Json) (text : String) : ActOn BlueskyInbox Json := do
  if ← ensureSession then
    let session := (← get).session
    recover (do (replyAs session mention text : Act Json)) fun f => do
      Act.print ("Error replying on Bluesky: " ++ f.message)
      return .null
  else return .null

end BlueskyInbox

end Persona.Mention
