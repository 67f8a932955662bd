import Persona.Audience.Library
import Persona.Environment
import Persona.Service.Twitter

/-!
# Growing an audience

Daily tweets and threads, the numbers of the account, and what they make possible.
-/

namespace Persona.Audience

def connect : Act Unit := do
  Twitter.connect (← Twitter.credentials)

/-- Post a tweet of the library: its id, null when it failed. -/
def postDaily : Act Json := do
  connect
  let tweet ← Act.chance (Chance.pick firstTweet otherTweets)
  recover (do
    let id ← Twitter.post (.str tweet) none
    Act.print ("✅ Posted: " ++ Twitter.statusUrl id)
    return id) fun f => do
      Act.print ("❌ Failed to post: " ++ f.message)
      return .null

/-- Say at which tweet a thread failed. -/
def threadFailure {α : Type} (position : Nat) (result : α) (f : Fault) : Act α := do
  Act.print ("❌ Thread failed at " ++ Number.natText (position + 1) ++ ": " ++ f.message)
  return result

/-- Post tweets as a thread of `size`, each in reply to `previous`, stopping at the first
failure: the id of the last one posted. -/
def postAfter (size : Nat) (previous : Json) (position : Nat) : List Json → Act Json
  | [] => return previous
  | tweet :: rest => do
    let replyTo := if previous.truthy then some previous else none
    let posted ← recover (do
      let id ← Twitter.post tweet replyTo
      return some id) (threadFailure position none)
    match posted with
    | none => return previous
    | some id =>
      let goOn ← recover (do
        Act.print ("✅ Thread " ++ Number.natText (position + 1) ++ "/" ++ Number.natText size ++
          ": " ++ id.text)
        Act.sleep (.whole 2)
        return true) (threadFailure position false)
      if goOn then postAfter size id (position + 1) rest else return id

/-- Post the items of a value as a thread. -/
def postThread (tweets : Json) : Act Json := do
  connect
  let tweets ← Act.look tweets.items
  postAfter tweets.length .null 0 tweets

/-- The numbers of the account, as the service gives them. -/
structure Stats where
  followers : Json
  following : Json
  tweets : Json

def Stats.json (s : Stats) : Json :=
  .obj [("followers", s.followers), ("following", s.following), ("tweets", s.tweets)]

def stats : Act (Option Stats) := do
  connect
  recover (do
    let (data, _) ← Act.twitter (.getMe (some ["public_metrics"]))
    let metrics ← Act.look (Twitter.attr data "public_metrics")
    return some {
      followers := ← Act.look (metrics.field "followers_count")
      following := ← Act.look (metrics.field "following_count")
      tweets := ← Act.look (metrics.field "tweet_count") }) fun f => do
    Act.print ("❌ Failed to get stats: " ++ f.message)
    return none

/-- What the number of followers makes possible. -/
def eligibility : Act Json := do
  match ← stats with
  | none => return .str "Unknown"
  | some s =>
    let enough ← Act.look (Json.compares .atLeast s.followers (.int 500))
    let few ← Act.look (Json.compares .less s.followers (.int 500))
    return .obj [
      ("followers", s.followers),
      ("tips_eligible", .bool true),
      ("subscriptions_eligible", .bool enough),
      ("revenue_sharing_eligible", .bool enough),
      ("next_milestone", .int (if few then 500 else 10000))]

/-- The names of the days and what is posted on each, from Monday on. -/
def calendar : List (String × String) :=
  [("Monday", "educational_thread"), ("Tuesday", "engagement_question"),
   ("Wednesday", "technical_insight"), ("Thursday", "bold_claim"),
   ("Friday", "community_callout"), ("Saturday", "milestone_update"), ("Sunday", "rest")]

/-- The routine of the day; one day is for rest. -/
def daily : Act Unit := do
  let (day, content) := calendar.getD (← Act.now).weekday ("", "technical_insight")
  Act.print ("📅 " ++ day ++ ": " ++ content)
  if content == "rest" then
    Act.print "😴 Rest day - no posting"
  else
    let _ ← postDaily
    match ← stats with
    | some s =>
      Act.print ("📊 Followers: " ++ s.followers.text ++ " | Tweets: " ++ s.tweets.text)
    | none => return ()

/-- What is loaded before anything else. -/
def load : Act Unit := do
  Act.need "tweepy"
  Environment.load

/-- The command line. -/
def program (arguments : List String) : Act Unit := do
  load
  match arguments with
  | [] =>
    Act.print "Usage: x_growth.py [post|stats|status|daily]"
    Act.print ("\nContent library: " ++ Number.natText librarySize ++ " tweets ready")
    Act.print ("Monetization status: " ++ (← eligibility).text)
  | command :: _ =>
    if command == "post" then discard postDaily
    else if command == "stats" then
      let shown := match ← stats with
        | some s => s.json.text
        | none => "None"
      Act.print ("📊 " ++ shown)
    else if command == "status" then Act.print ("💰 Monetization: " ++ (← eligibility).text)
    else if command == "daily" then daily

end Persona.Audience
