import Persona.Scribe.Announcement
import Persona.Scribe.Question

/-!
# Conversations

The scribe in the chat, on Twitter and at the terminal.
-/

namespace Persona.Scribe

/-! ## Chat -/

/-- The reply that shows a publication. -/
def publishedReply (p : Publication) : Except Mismatch String := do
  return Text.ofLines [
    "✨ **" ++ p.spec.title.text ++ "**", "", p.spec.summary.text, "", "**Highlights:**",
    ← bullets p.spec.highlights, "", "📜 **Spec:** " ++ p.url, "",
    "*Published to GitHub, Twitter, and Bluesky!*"]

/-- Reply with a specification. -/
def replyWithSpec (s : Scribe) (question : String) : Act Unit := do
  Act.reply ("🔮 Generating Phi spec for: *" ++ Text.take 50 question ++
    "...*\nThis may take a moment...")
  recover
    (do
      match ← s.publish (.str question) with
      | some p => Act.reply (← Act.look (publishedReply p))
      | none => Act.reply ("❌ " ++ failure))
    fun f => Act.reply ("❌ Oracle error: " ++ f.message)

/-- Reply in a few words. -/
def replyBriefly (s : Scribe) (question : String) : Act Unit := do
  let answer ← s.answerBriefly (.str question)
  if 1900 < (← Act.look answer.size) then Act.reply (← Act.look (answer.cutAndMark 1900 "..."))
  else Act.record (.reply answer)

/-- Take a message from the chat. What is not its own, and not an empty address, goes on to the
commands. -/
def receive (s : Scribe) (m : ChatMessage) : Act Unit := do
  if m.own then return ()
  let content ← Act.look (m.content.asText "lower")
  if namesBot content || m.mentioned then
    let question := chatQuestion content
    if question.isEmpty then
      Act.reply "Ask me anything! I'll generate a Phi spec for it. 🔮"
      return ()
    if chatWantsSpec question then replyWithSpec s question else replyBriefly s question
  Act.record (.processCommands m.content)

/-- Take part in the chat. -/
def joinChat (s : Scribe) (token : String) : Act Unit := do
  Act.record (.discordStart (some token))
  Act.print ("🤖 Phi Oracle Discord bot ready as " ++ (← get).account.name)
  Act.eachMessage s.receive

/-! ## Twitter -/

/-- The text of the reply to a question in a tweet. -/
def tweetReply (s : Scribe) (question : String) : Act Json := do
  if tweetWantsSpec question then
    match ← s.publish (.str question) with
    | some p => return .str ("🔮 Published: " ++ p.spec.title.text ++ "\n\n" ++ p.url)
    | none => Act.look ((← s.answerBriefly (.str question)).clip 250)
  else Act.look ((← s.answerBriefly (.str question)).clip 250)

/-- Take a tweet: the last id seen grows before anything else is done. -/
def takeTweet (s : Scribe) (tweet : Json) : ActOn (Option Int) Unit := do
  let id ← (Act.look (Twitter.attr tweet "id") : Act Json)
  let number ← (MonadExcept.ofExcept (Twitter.number id) : Act Int)
  modify fun (last : Option Int) => some (max (last.getD 0) number)
  let text ← (Act.look (Twitter.attr tweet "text") : Act Json)
  let question := tweetQuestion (← (Act.look (Twitter.searchable text) : Act String))
  unless question.isEmpty do
    (Act.print ("📨 Question from Twitter: " ++ question) : Act Unit)
    let reply ← (s.tweetReply question : Act Json)
    discard ((Act.twitter (.createTweet reply (some id)) : Act (Json × Json)) :
      ActOn (Option Int) (Json × Json))
    (Act.print ("✅ Replied to " ++ id.text) : Act Unit)

/-- One look at the mentions; a failure ends it and is waited out. -/
def poll (s : Scribe) : ActOn (Option Int) Unit :=
  recover
    (do
      let last : Option Int ← get
      let data ← (Twitter.mentionsSince last ["text", "author_id", "conversation_id"] : Act Json)
      if data.truthy then
        (← (Act.look data.items : Act (List Json))).forM s.takeTweet
      (Act.sleep (.whole 60) : Act Unit))
    fun f => do
      (Act.print ("❌ Twitter poll error: " ++ f.message) : Act Unit)
      (Act.sleep (.whole 120) : Act Unit)

/-- Answer mentions until interrupted. -/
def watchTwitter : Act Unit := do
  if ← Act.isInstalled "tweepy" then
    let s ← create
    if s.hasTwitter then
      Act.print "🐦 Twitter Oracle starting..."
      discard ((s.poll.forever (← Act.sleepsLeft)).runFrom none)
    else Act.print "❌ Twitter not configured"
  else Act.print "❌ tweepy not installed"

/-! ## Terminal -/

/-- Answer one line typed: false when the user takes leave. -/
def answerLine (s : Scribe) (line : String) : Act Bool := do
  let q := Text.trim line
  let lower := Text.lower q
  if ["quit", "exit", "q"].contains lower then return false
  if Text.startsWith lower "spec:" then
    match ← s.publish (.str (Text.trim (String.ofList (q.toList.drop 5)))) with
    | some p =>
      Act.print ("\n✨ " ++ p.spec.title.text)
      Act.print ("   URL: " ++ p.url ++ "\n")
    | none => Act.print ("\n❌ " ++ failure ++ "\n")
  else Act.print ("\nΦ: " ++ (← s.answerBriefly (.str q)).text ++ "\n")
  return true

/-- Answer line after line; the user takes leave by a word, an interruption or the end of the
input. -/
def answerLines (s : Scribe) : Nat → Act Unit
  | 0 => return ()
  | lines + 1 => do
    let goOn ← tryCatch
      (do
        let line ← Act.readLine "You: "
        s.answerLine line)
      fun f => match f with
        | .interrupted => return false
        | .endOfInput => return false
        | f => throw f
    if goOn then s.answerLines lines else return ()

def chat : Act Unit := do
  let s ← create
  Act.print "🔮 Phi Oracle - Interactive Mode"
  Act.print "   Type 'spec: <question>' to generate a full spec"
  Act.print "   Type anything else for a quick answer"
  Act.print "   Type 'quit' to exit\n"
  s.answerLines ((← get).input.length + 1)
  Act.print "\n👋 Oracle rests."

/-- Answer one question. -/
def ask (question : String) : Act Unit := do
  let s ← create
  match ← s.publish (.str question) with
  | none => Act.print ("\n❌ " ++ failure)
  | some p =>
    Act.print "\n✨ Success!"
    Act.print ("   Spec: " ++ p.url)
    match p.twitter with
    | some url => Act.print ("   Twitter: " ++ url)
    | none => pure ()
    Act.print ("\n" ++ p.discord)

def usage : String :=
  Text.ofLines [
    "", "🔮 Phi Oracle - The Generative Spec Engine", "", "Usage:",
    "  python phi_oracle.py ask \"What are the good parts of JavaScript?\"",
    "  python phi_oracle.py discord    # Run Discord bot",
    "  python phi_oracle.py twitter    # Run Twitter bot",
    "  python phi_oracle.py chat       # Interactive mode", "", "When you ask the oracle, it:",
    "1. Generates a Phi specification", "2. Commits to github.com/eurisko-info-lab/phi",
    "3. Announces on Twitter, Bluesky, Discord", ""]

/-- Take part in the chat, if there is one and a token for it. -/
def joinConfiguredChat (s : Option Scribe) : Act Unit := do
  match s with
  | none => Act.print "❌ discord.py not installed: pip install discord.py"
  | some s =>
    match ← Act.getEnv "DISCORD_BOT_TOKEN" with
    | some token =>
      if token.isEmpty then Act.print "❌ Set DISCORD_BOT_TOKEN in .env" else s.joinChat token
    | none => Act.print "❌ Set DISCORD_BOT_TOKEN in .env"

/-- The command line. -/
def program (arguments : List String) : Act Unit := do
  let s ← load
  match arguments with
  | [] => Act.print usage
  | command :: rest =>
    match Text.lower command, rest with
    | "ask", first :: more => ask (" ".intercalate (first :: more))
    | "discord", _ => joinConfiguredChat s
    | "twitter", _ => watchTwitter
    | "chat", _ => chat
    | command, _ =>
      Act.print ("Unknown command: " ++ command)
      Act.print "Use: ask, discord, twitter, or chat"

end Persona.Scribe
