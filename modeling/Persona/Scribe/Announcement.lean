import Persona.Scribe.Shelf

/-!
# Announcements

How a new specification is made known on each platform.
-/

namespace Persona.Scribe

/-- Highlights as a list, one to a line. -/
def bullets (highlights : Json) : Except Mismatch String := do
  return "\n".intercalate ((← highlights.items).map fun h => "• " ++ h.text)

/-- The first three highlights. -/
def topBullets (highlights : Json) : Except Mismatch String := do bullets (← highlights.clip 3)

def tweetText (spec : Spec) (url bullets : String) : String :=
  Text.ofLines [
    "🔮 New Phi Spec: " ++ spec.title.text, "", bullets, "", "Grammar = Implementation",
    "One spec → all platforms", "", url, "", "#PhiLang #TypeTheory #Programming"]

/-- A text of at most 280 characters; a longer one ends with three dots. -/
def shorten (text : String) : String :=
  if 280 < Text.size text then Text.take 277 text ++ "..." else text

/-- Announce on Twitter: the address of the tweet. -/
def announceTwitter (s : Scribe) (spec : Spec) (url : String) : Act (Option String) := do
  if s.hasTwitter then
    let text := tweetText spec url (← Act.look (topBullets spec.highlights))
    recover
      (do
        let id ← Twitter.post (.str (shorten text)) none
        Act.print ("✅ Posted to Twitter: " ++ Twitter.statusUrl id)
        return some (Twitter.statusUrl id))
      fun f => do
        Act.print ("❌ Twitter failed: " ++ f.message)
        return none
  else
    Act.print "⚠️ Twitter not configured"
    return none

def postText (spec : Spec) (url bullets : String) : String :=
  Text.ofLines ["🔮 New Phi Spec: " ++ spec.title.text, "", bullets, "", url]

/-- Post on Bluesky in the session that a reply opens. -/
def postAfter (login : Http.Reply) (spec : Spec) (url : String) : Act Unit := do
  Act.requireOk login
  let session ← Act.body login
  let text := postText spec url (← Act.look (topBullets spec.highlights))
  let record : Json := .obj [
    ("text", .str (Text.take 300 text)), ("createdAt", ← Bluesky.timestamp)]
  Act.requireOk (← Bluesky.createPost session record)

/-- Post on Bluesky in a session of its own. -/
def postBluesky (s : Scribe) (spec : Spec) (url : String) : Act Unit := do
  postAfter (← Bluesky.login s.handle s.password) spec url

/-- Announce on Bluesky: the address of the profile. -/
def announceBluesky (s : Scribe) (spec : Spec) (url : String) : Act (Option String) := do
  if isSet s.handle && isSet s.password then
    recover
      (do
        postBluesky s spec url
        Act.print "✅ Posted to Bluesky"
        return some ("https://bsky.app/profile/" ++ s.handle.getD ""))
      fun f => do
        Act.print ("❌ Bluesky failed: " ++ f.message)
        return none
  else
    Act.print "⚠️ Bluesky not configured"
    return none

/-- The message for Discord. -/
def discordMessage (spec : Spec) (url : String) : Except Mismatch String := do
  return Text.ofLines [
    "🔮 **New Phi Spec Published!**", "", "**" ++ spec.title.text ++ "**", "", spec.summary.text,
    "", "**Highlights:**", ← bullets spec.highlights, "", "📜 **View the spec:** " ++ url, "",
    "*Grammar = Implementation. Ask @phi anything.*"]

/-! ## Everything at once -/

/-- A specification that was kept and announced. -/
structure Publication where
  spec : Spec
  url : String
  twitter : Option String
  bluesky : Option String
  discord : String

/-- What is said when no specification could be written. -/
def failure : String := "Failed to generate spec"

/-- The publication, or the failure to write a specification, as a value. -/
def Publication.json : Option Publication → Json
  | none => .obj [("error", .str failure)]
  | some p => .obj [
    ("spec", .obj [
      ("name", p.spec.name), ("title", p.spec.title), ("summary", p.spec.summary),
      ("highlights", p.spec.highlights), ("url", .str p.url)]),
    ("announcements", .obj [
      ("twitter", Json.ofOption p.twitter), ("bluesky", Json.ofOption p.bluesky),
      ("discord", .str p.discord)])]

/-- Announce a specification that is kept somewhere. -/
def announce (s : Scribe) (spec : Spec) (url : String) : Act Publication := do
  Act.print "\n📢 Announcing to the world..."
  let twitter ← s.announceTwitter spec url
  let bluesky ← s.announceBluesky spec url
  let discord ← Act.look (discordMessage spec url)
  return { spec, url, twitter, bluesky, discord }

/-- Keep a specification and announce it. -/
def bringOut (s : Scribe) (spec : Spec) : Act Publication := do
  Act.print ("✨ Generated: " ++ spec.title.text)
  Act.print ("   Category: " ++ spec.category.text)
  Act.print ("   Highlights: " ++ (← Act.look (spec.highlights.joined ", ")))
  Act.print "\n💾 Saving to phi repo..."
  let url ← keep spec
  s.announce spec url

/-- Answer a question with a specification: write it, keep it and announce it; none if it cannot
be written. -/
def publish (s : Scribe) (question : Json) : Act (Option Publication) := do
  Act.print ("\n🔮 Oracle received: " ++ question.text ++ "\n")
  Act.print "📝 Generating Phi specification..."
  match ← s.writeSpec question with
  | none => return none
  | some spec => return some (← s.bringOut spec)

end Persona.Scribe
