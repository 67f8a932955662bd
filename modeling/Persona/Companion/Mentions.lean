import Persona.Companion.Basic
import Persona.Service.Twitter

/-!
# Mentions on Twitter

The companion asks for new mentions again and again and replies to them, the oldest first. The last
id seen grows with every mention, before the reply is written.
-/

namespace Persona.Companion

/-- The items in reverse order. -/
def reversed (v : Json) : Except Mismatch (List Json) :=
  match v.items with
  | .ok xs => .ok xs.reverse
  | .error _ => .error (.notReversible v.kindName)

/-- Reply to a tweet; a failure is reported. -/
def reply (id text : Json) : Act Unit :=
  recover
    (do
      discard (Act.twitter (.createTweet text (some id)))
      Act.print ("✅ Replied to tweet " ++ id.text))
    fun f => Act.print ("❌ Error replying: " ++ f.message)

/-- Take a tweet. -/
def takeTweet (tweet : Json) : ActOn (Option Int) Unit := do
  let id ← (Act.look (Twitter.attr tweet "id") : Act Json)
  let number ← (MonadExcept.ofExcept (Twitter.number id) : Act Int)
  modify fun (last : Option Int) => some (max (last.getD 0) number)
  let text ← (Act.look (Twitter.attr tweet "text") : Act Json)
  let response ← (respondOnTwitter text : Act Json)
  (reply id response : Act Unit)

/-- One look at the mentions; a failure ends it and is waited out. -/
def poll : ActOn (Option Int) Unit :=
  recover
    (do
      let last : Option Int ← get
      let data ← (Twitter.mentionsSince last ["conversation_id", "author_id"] : Act Json)
      if data.truthy then
        (← (Act.look (reversed data) : Act (List Json))).forM takeTweet
      (Act.sleep (.whole 60) : Act Unit))
    fun f => do
      (Act.print ("Twitter error: " ++ f.message) : Act Unit)
      (Act.sleep (.whole 300) : Act Unit)

/-- Reply to mentions until interrupted. -/
def watchTwitter : Act Unit := do
  if ← Act.isInstalled "tweepy" then
    Twitter.connect (← Twitter.credentials)
    Act.print "🐦 Twitter bot starting..."
    discard ((poll.forever (← Act.sleepsLeft)).runFrom none)
  else Act.print "Tweepy not installed. Run: pip install tweepy"

end Persona.Companion
