import Persona.Broadcast.Articles
import Persona.Environment
import Persona.Service.Bluesky
import Persona.Service.Twitter

/-!
# Broadcasting

An article goes to five platforms, every two hours, until the kill switch is put down. Each
platform answers with a line of its own; what fails on one does not touch the others.
-/

namespace Persona.Broadcast

/-! ## Platforms -/

/-- A failure as the answer of a platform. -/
def orError (label : String) (a : Act Json) : Act Json :=
  recover a fun f => return .str (label ++ " error: " ++ f.message)

/-- The address of a post in a reply, or the text of the refusal. -/
def addressOf (label : String) (reply : Http.Reply) : Act Json := do
  if reply.ok then Act.look ((← Act.body reply).fieldOr "url" (.str "posted"))
  else return .str (label ++ " error: " ++ reply.text.text)

/-- The note that a post went through, or the text of the refusal. -/
def noteOf (label : String) (reply : Http.Reply) : Json :=
  if reply.ok then .str (label ++ ": posted") else .str (label ++ " error: " ++ reply.text.text)

def postTwitter (text : Json) : Act Json :=
  orError "X" do
    Act.need "tweepy"
    Twitter.connect (← Twitter.credentials)
    let id ← Twitter.post (← Act.look (text.clip 280)) none
    return .str (Twitter.statusUrl id)

def defaultTags : Json := .arr [.str "programming", .str "languages", .str "compilers"]

/-- Publish an article with at most four tags. -/
def postArticle (title body tags : Json) : Act Json := do
  let key ← Act.getEnv "DEVTO_API_KEY"
  if !isSet key then return .str "Dev.to: no API key"
  orError "Dev.to" do
    let tags ← Act.look (tags.clip 4)
    let reply ← Act.http {
      method := .post
      url := "https://dev.to/api/articles"
      headers := some [("api-key", key.getD ""), ("Content-Type", "application/json")]
      json := some (.obj [("article", .obj [
        ("title", title), ("body_markdown", body), ("published", .bool true), ("tags", tags)])]) }
    addressOf "Dev.to" reply

def postMastodon (text : Json) : Act Json := do
  let server ← Act.getEnvOr "MASTODON_INSTANCE" "https://fosstodon.org"
  let token ← Act.getEnv "MASTODON_ACCESS_TOKEN"
  if !isSet token then return .str "Mastodon: no token"
  orError "Mastodon" do
    let status ← Act.look (text.clip 500)
    let reply ← Act.http {
      method := .post
      url := server ++ "/api/v1/statuses"
      headers := some [("Authorization", "Bearer " ++ token.getD "")]
      form := some (.obj [("status", status)]) }
    addressOf "Mastodon" reply

def linkedinPost (person : String) (text : Json) : Json :=
  .obj [
    ("author", .str ("urn:li:person:" ++ person)),
    ("lifecycleState", .str "PUBLISHED"),
    ("specificContent", .obj [("com.linkedin.ugc.ShareContent", .obj [
      ("shareCommentary", .obj [("text", text)]), ("shareMediaCategory", .str "NONE")])]),
    ("visibility", .obj [("com.linkedin.ugc.MemberNetworkVisibility", .str "PUBLIC")])]

def postLinkedin (text : Json) : Act Json := do
  let token ← Act.getEnv "LINKEDIN_ACCESS_TOKEN"
  let person ← Act.getEnv "LINKEDIN_PERSON_ID"
  if !(isSet token && isSet person) then return .str "LinkedIn: no token/id"
  orError "LinkedIn" do
    let text ← Act.look (text.clip 3000)
    let reply ← Act.http {
      method := .post
      url := "https://api.linkedin.com/v2/ugcPosts"
      headers := some [
        ("Authorization", "Bearer " ++ token.getD ""), ("Content-Type", "application/json"),
        ("X-Restli-Protocol-Version", "2.0.0")]
      json := some (linkedinPost (person.getD "") text) }
    return noteOf "LinkedIn" reply

def postBluesky (text : Json) : Act Json := do
  let handle ← Act.getEnv "BLUESKY_HANDLE"
  let password ← Act.getEnv "BLUESKY_APP_PASSWORD"
  if !(isSet handle && isSet password) then return .str "Bluesky: no credentials"
  orError "Bluesky" do
    let session ← Act.body (← Bluesky.login handle password)
    discard (Bluesky.authorization session)
    discard (Act.look (session.field "did"))
    let text ← Act.look (text.clip 300)
    let record : Json := .obj [
      ("text", text), ("createdAt", ← Bluesky.timestamp), ("$type", .str Bluesky.postKind)]
    return noteOf "Bluesky" (← Bluesky.createPost session record)

/-! ## All platforms -/

/-- The long article, if there is one with a title: its line. -/
def postLong (content : Json) : Act (List String) := do
  match content with
  | .obj fs =>
    match Fields.get? fs "long", Fields.get? fs "title" with
    | some long, some title =>
      return ["Dev.to: " ++ (← postArticle title long defaultTags).text]
    | _, _ => return []
  | _ => return []

/-- Post content to all platforms: one line for each. -/
def postAll (content : Json) : Act (List String) := do
  let short ← Act.look (content.field "short")
  let x ← postTwitter short
  let mastodon ← postMastodon short
  let bluesky ← postBluesky short
  let long ← postLong content
  let linkedin ← postLinkedin (← Act.look (content.fieldOr "linkedin" short))
  return ["X: " ++ x.text, "Mastodon: " ++ mastodon.text, "Bluesky: " ++ bluesky.text] ++ long ++
    ["LinkedIn: " ++ linkedin.text]

/-- The article at a place of the library, which counts from the end if it is negative. -/
def articleAt (place : Json) : Except Mismatch Json :=
  let all := articles.1 :: articles.2
  match place.whole? with
  | none => .error (.listIndex place.kindName)
  | some i =>
    let i := if i < 0 then i + all.length else i
    match if i < 0 then none else all[i.toNat]? with
    | some a => .ok a.json
    | none => .error .outOfRange

def load : Act Unit := Environment.load

/-- One round; it ends when the kill switch is down. -/
def round : Unit → Act (Option Unit)
  | () => do
    if ← Act.fileExists Act.killSwitch then
      Act.print ("[" ++ (← Act.now).text ++ "] kill.switch detected. Halting.")
      return none
    else
      let article ← Act.chance (Chance.pick articles.1 articles.2)
      Act.print ("\n[" ++ (← Act.now).text ++ "] Posting: " ++ Text.take 50 article.title ++ "...")
      (← postAll article.json).forM fun line => Act.print ("  " ++ line)
      Act.sleep (.whole 7200)
      return some ()

def program : Act Unit := do
  load
  Act.print ("[" ++ (← Act.now).text ++ "] Multi-platform daemon started")
  Act.print "Touch 'kill.switch' to stop"
  Act.rounds round (← Act.sleepsLeft) ()

end Persona.Broadcast
