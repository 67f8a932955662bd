import Persona.Campaign.Messages
import Persona.Environment
import Persona.Service.Bluesky
import Persona.Service.Twitter

/-!
# The campaign

Every few hours one message goes to all platforms that are configured, until the kill switch is
put down. A failure on one platform does not keep the message from the others.
-/

namespace Persona

/-- The settings of the campaign and its session at Bluesky, null without one. -/
structure Campaign where
  discordUrl : Option String
  handle : Option String
  password : Option String
  session : Json := .null

namespace Campaign

/-- Seconds between two messages, after a rate limit, and after a failure. -/
def interval : Nat := 10800
def rateLimitPause : Nat := 7200
def failurePause : Nat := 1800

def load : Act Campaign := do
  Act.need "tweepy"
  Environment.load
  Twitter.connect (← Twitter.credentials)
  return {
    discordUrl := ← Act.getEnv "DISCORD_WEBHOOK_URL"
    handle := ← Act.getEnv "BLUESKY_HANDLE"
    password := ← Act.getEnv "BLUESKY_APP_PASSWORD" }

/-- Print a line after the time. -/
def report (text : String) : Act Unit := do
  Act.print ("[" ++ (← Act.now).text ++ "] " ++ text)

/-! ## Discord -/

def discordPayload (message : Json) (now : Moment) : Json :=
  .obj [
    ("embeds", .arr [.obj [
      ("title", .str "Φ Daemon Update"), ("description", message), ("color", .int 0x818cf8),
      ("footer", .obj [("text", .str "Φ-AUTONOMOUS • Grammar = Implementation")]),
      ("timestamp", .str now.isoText)]]),
    ("username", .str "Φ Daemon"),
    ("avatar_url",
      .str "https://raw.githubusercontent.com/eurisko-info-lab/phi/main/docs/phi-logo.png")]

/-- Post to Discord: whether it went well. -/
def postDiscord (c : Campaign) (message : Json) : Act Bool := do
  match c.discordUrl with
  | none => return false
  | some url =>
    if url.isEmpty then return false
    recover
      (do
        let reply ← Act.http {
          method := .post
          url
          headers := some [("Content-Type", "application/json")]
          json := some (discordPayload message (← Act.now)) }
        if reply.hasStatus 200 || reply.hasStatus 204 then
          report "💜 Discord: Posted!"
          return true
        else
          report ("⚠️ Discord error: " ++ reply.status.text)
          return false)
      fun f => do
        report ("⚠️ Discord error: " ++ f.message)
        return false

/-! ## Bluesky -/

/-- Open a session: null if it cannot be opened. -/
def login : ActOn Campaign Json := do
  let c : Campaign ← get
  unless isSet c.handle && isSet c.password do return .null
  recover
    (do
      let reply ← (Bluesky.login c.handle c.password : Act Http.Reply)
      if reply.hasStatus 200 then
        let session ← (Act.body reply : Act Json)
        set { c with session }
        return session
      else
        (report ("⚠️ Bluesky login failed: " ++ reply.status.text) : Act Unit)
        return .null)
    fun f => do
      (report ("⚠️ Bluesky login error: " ++ f.message) : Act Unit)
      return .null

/-- Open a session and keep what came of it. -/
def renew : ActOn Campaign Json := do
  let session ← login
  modify fun (c : Campaign) => { c with session }
  return session

/-- Date and time in whole seconds; the year is not padded. -/
def secondText (m : Moment) : String :=
  m.date.plainText ++ "T" ++ Moment.clockText 2 m.secondOfDay 0 ++ ".000Z"

/-- A message as a record, cut to the length that is allowed. -/
def record (message : Json) (now : Moment) : Except Mismatch Json := do
  return .obj [
    ("$type", .str Bluesky.postKind), ("text", ← message.clip 300),
    ("createdAt", .str (secondText now))]

/-- Post to Bluesky: whether it went well. A session that has ended is renewed, and the message
posted again, at most `retries` times. -/
def tryBluesky (message : Json) : Nat → ActOn Campaign Bool
  | 0 => return false
  | retries + 1 => do
    let c : Campaign ← get
    let session ← if c.session.truthy then pure c.session else renew
    unless session.truthy do return false
    recover
      (do
        let now ← (Act.now : Act Moment)
        let post ← (Act.look (record message now) : Act Json)
        let reply ← (Bluesky.createPost session post : Act Http.Reply)
        if reply.hasStatus 200 then
          let answer ← (Act.body reply : Act Json)
          let uri ← (Act.look (answer.fieldOr "uri" (.str "")) : Act Json)
          (report ("🦋 Bluesky: Posted! " ++ uri.text) : Act Unit)
          return true
        else if reply.hasStatus 401 then
          if (← renew).truthy then tryBluesky message retries else return false
        else
          (report ("⚠️ Bluesky error: " ++ reply.status.text) : Act Unit)
          return false)
      fun f => do
        (report ("⚠️ Bluesky error: " ++ f.message) : Act Unit)
        return false

/-- Post to Bluesky. Each attempt uses up an answer of the service, so the answers left bound
them. -/
def postBluesky (message : Json) : ActOn Campaign Bool := do
  let left ← (do return (← get).http.length : Act Nat)
  tryBluesky message (left + 1)

/-! ## Twitter -/

/-- How a tweet went. -/
inductive Tweeted where
  | posted (id : Json)
  | rateLimited
  | failed (reason : String)

def tweet (message : String) : Act Tweeted :=
  recover (return .posted (← Twitter.post (.str (Text.take 280 message)) none)) fun f =>
    match f with
    | .rateLimited _ => return .rateLimited
    | f => return .failed f.message

def chooseMessage : Act String := Act.chance (Chance.pick firstMessage otherMessages)

/-- Whether the kill switch is down; it is reported. -/
def isHalted : Act Bool := do
  if ← Act.fileExists Act.killSwitch then
    report "kill.switch detected. Halting."
    return true
  else return false

/-- What comes after a post: whether to go on, and after how many seconds. -/
structure Next where
  goOn : Bool
  wait : Nat

/-- Post a message to Twitter only. -/
def postTweet : Act Next := do
  if ← isHalted then return ⟨false, 0⟩
  match ← tweet (← chooseMessage) with
  | .posted id =>
    report ("✅ Twitter: " ++ Twitter.statusUrl id)
    return ⟨true, interval⟩
  | .rateLimited =>
    report "⏳ Twitter rate limited. Backing off 2 hours..."
    return ⟨true, rateLimitPause⟩
  | .failed reason =>
    report ("❌ Twitter error: " ++ reason)
    return ⟨true, failurePause⟩

/-! ## All platforms -/

/-- Tweet as part of the campaign: whether it went well. -/
def tweetAndReport (message : String) : Act Bool := do
  match ← tweet message with
  | .posted id =>
    report ("✅ Twitter: " ++ Twitter.statusUrl id)
    return true
  | .rateLimited =>
    report "⏳ Twitter rate limited"
    return false
  | .failed reason =>
    report ("❌ Twitter: " ++ reason)
    return false

/-- Post one message to all platforms. -/
def postAll : ActOn Campaign Next := do
  if ← (isHalted : Act Bool) then return ⟨false, 0⟩
  let c : Campaign ← get
  let message ← (chooseMessage : Act String)
  let twitter ← (tweetAndReport message : Act Bool)
  let discord ← if isSet c.discordUrl then (c.postDiscord (.str message) : Act Bool) else pure false
  let bluesky ← if isSet c.handle then postBluesky (.str message) else pure false
  if twitter || discord || bluesky then return ⟨true, interval⟩ else return ⟨true, failurePause⟩

/-- One round of the campaign. -/
def round (c : Campaign) : Act (Option Campaign) := do
  let (next, c) ← postAll.runFrom c
  if next.goOn then
    Act.sleep (.whole next.wait)
    return some c
  else return none

def platforms (c : Campaign) : List String :=
  ["Twitter"] ++ (if isSet c.discordUrl then ["Discord"] else []) ++
    (if isSet c.handle then ["Bluesky"] else [])

def program : Act Unit := do
  let c ← load
  report "🐕 Φ CM Daemon started"
  report ("📢 Platforms: " ++ ", ".intercalate c.platforms)
  report ("⏰ Posting every " ++ Number.natText (interval / 3600) ++ " hours")
  report "Touch 'kill.switch' to stop."
  Act.rounds round (← Act.sleepsLeft) c

end Campaign

end Persona
