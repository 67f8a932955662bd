import Persona.Environment
import Persona.Mention.Inbox
import Persona.Mention.Responder

/-!
# Watching for mentions

The loop that looks into every configured inbox every two minutes and answers what it finds,
until the kill switch is put down.
-/

namespace Persona.Mention

/-- One of the inboxes. -/
inductive Inbox where
  | twitter (s : TwitterInbox)
  | mastodon (s : MastodonInbox)
  | bluesky (s : BlueskyInbox)

namespace Inbox

def name : Inbox → String
  | twitter _ => "Twitter"
  | mastodon _ => "Mastodon"
  | bluesky _ => "Bluesky"

def check : Inbox → Act (List Json × Inbox)
  | twitter s => return (← TwitterInbox.check.runFrom s).map id twitter
  | mastodon s => return (← MastodonInbox.check.runFrom s).map id mastodon
  | bluesky s => return (← BlueskyInbox.check.runFrom s).map id bluesky

def reply (mention : Json) (text : String) : Inbox → Act (Json × Inbox)
  | twitter s => return (← TwitterInbox.reply mention text, twitter s)
  | mastodon s => return (← MastodonInbox.reply s.server mention text, mastodon s)
  | bluesky s => return (← (BlueskyInbox.reply mention text).runFrom s).map id bluesky

/-- An inbox whose cursor is read from the file. -/
def openTwitter : Act TwitterInbox := return (← TwitterInbox.load.runFrom {}).2

def openMastodon : Act MastodonInbox := do
  let server ← Act.getEnvOr "MASTODON_INSTANCE" "https://fosstodon.org"
  return (← MastodonInbox.load.runFrom { server }).2

def openBluesky : Act BlueskyInbox := return (← BlueskyInbox.load.runFrom {}).2

end Inbox

/-- How the loop looks for mentions in an inbox and replies to one. -/
structure Port where
  check : Inbox → Act (List Json × Inbox)
  reply : Json → String → Inbox → Act (Json × Inbox)

/-- The platforms themselves. -/
def Port.platforms : Port := ⟨Inbox.check, Inbox.reply⟩

/-- What the loop carries while it attends to one inbox. -/
structure Desk where
  responder : Responder
  inbox : Inbox

namespace Desk

/-- Answer a mention, unless its author is to be left alone. -/
def answer (port : Port) (mention : Json) : ActOn Desk Unit := do
  let s ← get
  let now ← (Act.now : Act Moment)
  let tag := "  [" ++ s.inbox.name ++ "] "
  let look {α : Type} (e : Except Mismatch α) : ActOn Desk α := (Act.look e : Act α)
  let author ← look (mention.fieldOr "author" (.str "unknown"))
  let text ← look (mention.fieldOr "text" (.str ""))
  let author ← look (author.asText "lower")
  let (granted, responder) := s.responder.grant author now
  set { s with responder }
  if granted then
    let text ← look (text.asText "lower")
    let response ← (Responder.compose text).within (·.responder) fun responder s =>
      { s with responder }
    let (result, inbox) ← (port.reply mention response s.inbox : Act (Json × Inbox))
    modify fun s => { s with inbox }
    if result.truthy then
      (Act.print (tag ++ "Replied to @" ++ author ++ ": " ++ result.text) : Act Unit)
    else (Act.print (tag ++ "Failed to reply to @" ++ author) : Act Unit)
  else (Act.print (tag ++ "Skipping (rate limit): @" ++ author) : Act Unit)

/-- Look into the inbox and answer what is in it; a failure ends the visit. -/
def visit (port : Port) : ActOn Desk Unit :=
  recover (do
    let s ← get
    let (mentions, inbox) ← (port.check s.inbox : Act (List Json × Inbox))
    set { s with inbox }
    mentions.forM (answer port)) fun f => do
      (Act.print ("  [" ++ (← get).inbox.name ++ "] Error: " ++ f.message) : Act Unit)

end Desk

/-- Visit the inboxes one after the other with one responder. -/
def visitAll (port : Port) (responder : Responder) : List Inbox → Act (Responder × List Inbox)
  | [] => return (responder, [])
  | inbox :: rest => do
    let (_, desk) ← (Desk.visit port).runFrom ⟨responder, inbox⟩
    let (responder, rest) ← visitAll port desk.responder rest
    return (responder, desk.inbox :: rest)

/-- One round of the loop; it ends when the kill switch is down. -/
def watchRound (port : Port) (s : Responder × List Inbox) :
    Act (Option (Responder × List Inbox)) := do
  if ← Act.fileExists Act.killSwitch then
    Act.print ("[" ++ (← Act.now).text ++ "] kill.switch detected. Halting.")
    return none
  else
    let s ← visitAll port s.1 s.2
    Act.sleep (.whole 120)
    return some s

/-- Load the settings; true when the agent has a psyche. -/
def load : Act Bool := do
  Environment.load
  if ← Act.isInstalled "soul" then return true
  else
    Act.print "Warning: soul.py not found. Responses will be more mechanical."
    return false

/-- A variable that is there and not empty. -/
def isConfigured (name : String) : Act Bool := return isSet (← Act.getEnv name)

/-- The inboxes of the platforms that are configured. -/
def openInboxes : Act (List Inbox) := do
  let twitter ← if ← isConfigured "TWITTER_API_KEY" then do
      let s ← Inbox.openTwitter
      Act.print "  ✓ Twitter monitor active"
      pure [Inbox.twitter s]
    else pure []
  let mastodon ← if ← isConfigured "MASTODON_ACCESS_TOKEN" then do
      let s ← Inbox.openMastodon
      Act.print "  ✓ Mastodon monitor active"
      pure [Inbox.mastodon s]
    else pure []
  let bluesky ← if ← isConfigured "BLUESKY_HANDLE" then do
      let s ← Inbox.openBluesky
      Act.print "  ✓ Bluesky monitor active"
      pure [Inbox.bluesky s]
    else pure []
  return twitter ++ mastodon ++ bluesky

/-- Watch all configured platforms through a port. -/
def watch (port : Port) (hasPsyche : Bool) : Act Unit := do
  Act.print ("[" ++ (← Act.now).text ++ "] @phi mention responder started")
  Act.print "Touch 'kill.switch' to stop"
  let responder := Responder.new hasPsyche (← Act.now)
  let inboxes ← openInboxes
  if inboxes.isEmpty then Act.print "No platforms configured! Set API keys in .env"
  else
    if hasPsyche then
      let phase := Psyche.Phase.ofMoment (← Act.now)
      Act.print ("  Soul active: " ++ phase.name ++ " (" ++ phase.quality.name ++ "), energy: " ++
        Number.percent 0 phase.energy)
    Act.print ""
    Act.rounds (watchRound port) (← Act.sleepsLeft) (responder, inboxes)

def program : Act Unit := do watch .platforms (← load)

end Persona.Mention
