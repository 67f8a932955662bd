import Persona.Proofs.Broadcast.Containment
import Persona.Proofs.Campaign.Retrying
import Persona.Proofs.World.KillSwitch

/-!
# Failures of a platform in a campaign

A message goes to one platform after the other. Each of them says whether it went well there and
says nothing else: a failure is told and the next platform has its turn. So a round comes to its
end whatever the services answer, and the wait after it hangs on whether the message went out
anywhere.

Main statements: `Campaign.postAll_reaches`, `platforms_contain_failures`.
-/

namespace Persona

theorem Act.recover_congr {α : Type} {x y : Act α} {handler : Fault → Act α} {w w' : World}
    (h : x w = y w') : recover x handler w = recover y handler w' := by
  simp only [recover, tryCatch, tryCatchThe, MonadExceptOf.tryCatch, ExceptT.tryCatch, ExceptT.mk,
    bind, StateT.bind, h]

/-- What follows a choice follows either activity. -/
theorem ActOn.ite_bind {σ α β : Type} {c : Prop} [Decidable c] (x y : ActOn σ α)
    (f : α → ActOn σ β) : (if c then x else y) >>= f = if c then x >>= f else y >>= f := by
  split <;> rfl

namespace Campaign

open World (Asked Same)

/-! ## Twitter -/

/-- The tweet went through, by the answers to come. -/
def tweeted : List (Scripted Twitter.Answer) → Bool
  | .gives (.result data _) :: _ => (data.field "id").isOk
  | _ => false

def Tweeted.isPosted : Tweeted → Bool
  | posted _ => true
  | rateLimited | failed _ => false

/-- The tweet of a message. -/
def tweetCall (message : String) : Twitter.Call :=
  .createTweet (.str (Text.take 280 message)) none

theorem post_isOk (text : Json) (w : World) :
    (Twitter.post text none w).1.isOk = tweeted w.twitter := by
  have hrun := Act.twitter_apply (.createTweet text none) w
  unfold Twitter.post
  match hanswers : w.twitter with
  | [] | .fails reason :: rest | .gives (.rateLimit reason) :: rest =>
      rw [hanswers] at hrun
      rw [Act.bind_of_error hrun]
      rfl
  | .gives (.result data includes) :: rest =>
      rw [hanswers] at hrun
      rw [Act.bind_of_ok hrun, tweeted]
      dsimp only
      cases data.field "id" <;> rfl

theorem post_standing (text : Json) (w : World) :
    (Twitter.post text none w).2.standing =
      ⟨w.clock, w.http, w.contacts ++ [.call (.createTweet text none)]⟩ := by
  rw [← Act.twitter_standing]
  exact Act.Leads.bind_from (R := Same World.standing) (fun _ => .look _) w

theorem tweet_outcome (message : String) (w : World) :
    ∃ outcome w', tweet message w = (.ok outcome, w') ∧ outcome.isPosted = tweeted w.twitter ∧
      w'.standing = ⟨w.clock, w.http, w.contacts ++ [.call (tweetCall message)]⟩ := by
  have hposted := post_isOk (.str (Text.take 280 message)) w
  have hstanding := post_standing (.str (Text.take 280 message)) w
  unfold tweetCall tweet
  rw [← hposted, ← hstanding]
  rcases hpost : Twitter.post (.str (Text.take 280 message)) none w with ⟨r, w₁⟩
  cases r with
  | ok id => exact ⟨.posted id, w₁, Act.recover_of_ok (Act.bind_of_ok hpost), rfl, rfl⟩
  | error f =>
      have hfailure := Scribe.post_recoverable _ _ w w₁ f hpost
      rw [Act.recover_of_failure (Act.bind_of_error hpost) hfailure]
      cases f <;> exact ⟨_, w₁, rfl, rfl, rfl⟩

theorem tweetAndReport_tells (message : String) (w : World) :
    ∃ w', tweetAndReport message w = (.ok (tweeted w.twitter), w') ∧
      w'.standing = ⟨w.clock, w.http, w.contacts ++ [.call (tweetCall message)]⟩ := by
  obtain ⟨outcome, w₁, hrun, hposted, hstanding⟩ := tweet_outcome message w
  rw [tweetAndReport, Act.bind_of_ok hrun, ← hposted, ← hstanding]
  cases outcome <;> exact ⟨_, rfl, Act.print_standing _ w₁⟩

/-! ## Discord -/

/-- The request that brings a message to Discord. -/
def discordRequest (url : String) (message : Json) (now : Moment) : Http.Request where
  method := .post
  url := url
  headers := some [("Content-Type", "application/json")]
  json := some (discordPayload message now)

/-- The requests that a message makes of Discord: none unless its address is set. -/
def discordRequests (c : Campaign) (message : Json) (now : Moment) : List Http.Request :=
  if isSet c.discordUrl then [discordRequest (c.discordUrl.getD "") message now] else []

/-- The message went through, by the answers to come. -/
def delivered (answers : List (Scripted Http.Reply)) : Bool :=
  match Act.answered answers with
  | .ok reply => reply.hasStatus 200 || reply.hasStatus 204
  | .error _ => false

theorem postDiscord_delivers {c : Campaign} (hset : isSet c.discordUrl = true) (message : Json)
    (w : World) :
    ∃ w', c.postDiscord message w = (.ok (delivered w.http), w') ∧
      Asked (c.discordRequests message w.clock) w w' := by
  unfold discordRequests
  rw [if_pos hset]
  cases hurl : c.discordUrl with
  | none =>
      rw [hurl] at hset
      cases hset
  | some url =>
      have hfull : ¬url.isEmpty = true := by
        intro h
        rw [hurl, isSet, h] at hset
        cases hset
      have hnow : Act.now w = (.ok w.clock, w) := rfl
      have hasked := Act.http_asked (discordRequest url message w.clock) w
      rw [delivered, ← Act.http_result (discordRequest url message w.clock)]
      rw [postDiscord, hurl]
      dsimp only
      rw [if_neg hfull]
      rcases hrun : Act.http (discordRequest url message w.clock) w with ⟨r, w₁⟩
      rw [hrun] at hasked
      rw [Act.recover_congr (Act.bind_of_ok hnow)]
      have htold (line : String) (sent : Bool) :
          ∃ w', (do report line; return sent : Act Bool) w₁ = (.ok sent, w') ∧
            Asked [discordRequest url message w.clock] w w' :=
        ⟨_, rfl, hasked.trans_same (Act.print_standing _ w₁)⟩
      cases r with
      | error f =>
          obtain ⟨w', hsaid, hasked⟩ := htold ("⚠️ Discord error: " ++ f.message) false
          refine ⟨w', Eq.trans ?_ hsaid, hasked⟩
          exact Act.recover_of_failure (Act.bind_of_error hrun) (Act.http_failure hrun)
      | ok reply =>
          dsimp only
          cases hstatus : reply.hasStatus 200 || reply.hasStatus 204 with
          | true =>
              obtain ⟨w', hsaid, hasked⟩ := htold "💜 Discord: Posted!" true
              refine ⟨w', Act.recover_of_ok ((Act.bind_of_ok hrun).trans ?_), hasked⟩
              rw [hstatus]
              exact hsaid
          | false =>
              obtain ⟨w', hsaid, hasked⟩ := htold ("⚠️ Discord error: " ++ reply.status.text) false
              refine ⟨w', Act.recover_of_ok ((Act.bind_of_ok hrun).trans ?_), hasked⟩
              rw [hstatus]
              exact hsaid

/-! ## All platforms -/

/-- How a message goes out on Bluesky, if it does, by the answers to come. -/
def GoesOut (c : Campaign) (message : Json) (now : Moment) (answers : List (Scripted Http.Reply))
    (requests : List Http.Request) (posted : Bool) : Prop :=
  if isSet c.handle then
    ∃ later, requests = c.firstLogins ++ later ∧
      Posting c.handle c.password (sends message now) (c.firstSession answers)
        (answers.drop c.firstLogins.length) later posted
  else requests = [] ∧ posted = false

theorem discord_turn (c : Campaign) (message : Json) (w : World) :
    ∃ w', (if isSet c.discordUrl then (c.postDiscord message : Act Bool) else pure false :
        ActOn Campaign Bool) c w =
        ((.ok (isSet c.discordUrl && delivered w.http), c), w') ∧
      Asked (c.discordRequests message w.clock) w w' := by
  cases hset : isSet c.discordUrl with
  | false =>
      refine ⟨w, rfl, ?_⟩
      rw [discordRequests, hset]
      exact .ofSame rfl
  | true =>
      obtain ⟨w', hrun, hasked⟩ := postDiscord_delivers hset message w
      exact ⟨w', ActOn.lift_of_eq hrun, hasked⟩

theorem bluesky_turn (c : Campaign) (message : Json) (w : World) :
    ∃ requests posted c' w', (if isSet c.handle then postBluesky message else pure false :
        ActOn Campaign Bool) c w = ((.ok posted, c'), w') ∧
      Asked requests w w' ∧ c.GoesOut message w.clock w.http requests posted := by
  unfold GoesOut
  cases hset : isSet c.handle with
  | false => exact ⟨[], false, c, w, rfl, .ofSame rfl, rfl, rfl⟩
  | true =>
      obtain ⟨requests, posted, c', w', hrun, hasked, hposting⟩ := postBluesky_posting message c w
      exact ⟨_, posted, c', w', hrun, hasked, requests, rfl, hposting⟩

/-- Without the kill switch one of the messages goes to all platforms in order. -/
theorem postAll_reaches {w : World} (hswitch : w.files.holds ["kill.switch"] = false)
    (c : Campaign) :
    ∃ message ∈ firstMessage :: otherMessages, ∃ requests posted c' w',
      postAll c w = ((.ok ⟨true, if tweeted w.twitter ||
        (isSet c.discordUrl && delivered w.http) || posted then 10800 else 1800⟩, c'), w') ∧
      w'.contacts = w.contacts ++ .call (tweetCall message) ::
        (c.discordRequests (.str message) w.clock ++ requests).map .request ∧
      c.GoesOut (.str message) w.clock
        (w.http.drop (c.discordRequests (.str message) w.clock).length) requests posted := by
  have hgoing : isHalted w = (.ok false, w) := by
    have hexists := Act.fileExists_killSwitch w
    rw [hswitch] at hexists
    exact Act.bind_of_ok hexists
  let pick := Chance.pick firstMessage otherMessages w.draws
  have hchoice : chooseMessage w = (.ok pick.1, { w with draws := pick.2 }) := rfl
  obtain ⟨w₁, htweet, hstanding⟩ := tweetAndReport_tells pick.1 { w with draws := pick.2 }
  have hclock : w₁.clock = w.clock := congrArg Standing.clock hstanding
  have hhttp : w₁.http = w.http := congrArg Standing.http hstanding
  have hcontacts : w₁.contacts = w.contacts ++ [.call (tweetCall pick.1)] :=
    congrArg Standing.contacts hstanding
  obtain ⟨w₂, hdiscord, hasked⟩ := c.discord_turn (.str pick.1) w₁
  rw [hhttp] at hdiscord
  rw [hclock] at hasked
  obtain ⟨requests, posted, c', w', hbluesky, hasked', hgoes⟩ := c.bluesky_turn (.str pick.1) w₂
  rw [hasked.clock, hasked.http, hclock, hhttp] at hgoes
  refine ⟨pick.1, Chance.pick_mem .., requests, posted, c', w', ?_, ?_, hgoes⟩
  · rw [postAll, ActOn.bind_lift_of_ok hgoing]
    simp only [Bool.false_eq_true, if_false]
    rw [ActOn.bind_of_ok (ActOn.get_apply c w), ActOn.bind_lift_of_ok hchoice,
      ActOn.bind_lift_of_ok htweet, ← ActOn.ite_bind, ActOn.bind_of_ok hdiscord, ← ActOn.ite_bind,
      ActOn.bind_of_ok hbluesky]
    split <;> rfl
  · rw [(hasked.trans hasked').contacts, hcontacts, List.append_assoc]
    rfl

end Campaign

/-! ## Both ways to post -/

/-- Whatever the services answer and the environment holds, posting to all platforms comes to its
end. A broadcast of content with a short text posts to each platform in order, in the world that
the ones before it left, and has its line. Without the kill switch, a campaign tries Twitter,
Discord and Bluesky with one message, as far as they are set, and then waits for the next one, or
for less if the message went out nowhere. -/
theorem platforms_contain_failures :
    (∀ (fs : List (String × Json)) (short : Json) (w : World),
      Fields.get? fs "short" = some short →
      ∃ lines w', Broadcast.postAll (.obj fs) w = (.ok lines, w') ∧
        Act.InTurn (Broadcast.Platform.tell fs short) (Broadcast.platforms fs) w lines w') ∧
    ∀ (c : Campaign) (w : World), w.files.holds ["kill.switch"] = false →
      ∃ message ∈ Campaign.firstMessage :: Campaign.otherMessages, ∃ requests posted c' w',
        Campaign.postAll c w = ((.ok ⟨true, if Campaign.tweeted w.twitter ||
          (isSet c.discordUrl && Campaign.delivered w.http) || posted
          then 10800 else 1800⟩, c'), w') ∧
        w'.contacts = w.contacts ++ .call (Campaign.tweetCall message) ::
          (c.discordRequests (.str message) w.clock ++ requests).map .request ∧
        c.GoesOut (.str message) w.clock
          (w.http.drop (c.discordRequests (.str message) w.clock).length) requests posted :=
  ⟨fun _ _ w hshort => Broadcast.postAll_inTurn hshort w,
    fun c _ hswitch => Campaign.postAll_reaches hswitch c⟩

/-- A world with an account on every platform, where posting fails on each of them in its own
way. -/
def stormyWorld : World where
  clock := ⟨0⟩
  draws := ⟨[], 0⟩
  environment := [("MASTODON_ACCESS_TOKEN", "m"), ("BLUESKY_HANDLE", "phi"),
    ("BLUESKY_APP_PASSWORD", "b"), ("DEVTO_API_KEY", "d"), ("LINKEDIN_ACCESS_TOKEN", "l"),
    ("LINKEDIN_PERSON_ID", "phi")]
  twitter := [.gives (.rateLimit "Too many tweets")]
  http := [.gives { status := .int 503, text := .str "Down" }, .fails "Timed out",
    .gives { status := .int 201 }, .gives { status := .int 500, text := .str "Broken" }]

/-- Content for all platforms. -/
def essay : List (String × Json) :=
  [("short", .str "Trees."), ("title", .str "Trees"), ("long", .str "All the way down.")]

/-- A campaign on every platform. -/
def accounts : Campaign where
  discordUrl := some "https://hook"
  handle := some "h"
  password := some "p"

/-- What the platforms tell of the essay in the storm. -/
def stormyLines : List String :=
  ["X: X error: Too many tweets", "Mastodon: Mastodon error: Down",
    "Bluesky: Bluesky error: Timed out",
    "Dev.to: Dev.to error: Expecting value: line 1 column 1 (char 0)",
    "LinkedIn: LinkedIn error: Broken"]

/-- Where every platform is asked and fails there are five lines all the same, and the campaign goes
on, to wait for less. -/
theorem platforms_contain_failures_stormyWorld :
    Fields.get? essay "short" = some (.str "Trees.") ∧
    stormyWorld.files.holds ["kill.switch"] = false ∧
    (∃ w', Broadcast.postAll (.obj essay) stormyWorld = (.ok stormyLines, w') ∧
      Act.InTurn (Broadcast.Platform.tell essay (.str "Trees."))
        [.x, .mastodon, .bluesky, .devTo, .linkedin] stormyWorld stormyLines w' ∧
      w'.contacts.length = 5) ∧
    ∃ c' w', Campaign.postAll accounts stormyWorld = ((.ok ⟨true, 1800⟩, c'), w') ∧
      w'.contacts.length = 3 := by
  have hshort : Fields.get? essay "short" = some (.str "Trees.") := rfl
  have hswitch : stormyWorld.files.holds ["kill.switch"] = false := by decide
  refine ⟨hshort, hswitch, ?_, ?_⟩
  · obtain ⟨lines, w', hrun, hturns⟩ := platforms_contain_failures.1 essay _ stormyWorld hshort
    have htold : (Broadcast.postAll (.obj essay) stormyWorld).1.toOption = some stormyLines ∧
        (Broadcast.postAll (.obj essay) stormyWorld).2.contacts.length = 5 := by decide +kernel
    rw [hrun] at htold
    obtain ⟨rfl, hcontacts⟩ : lines = stormyLines ∧ w'.contacts.length = 5 :=
      ⟨Option.some.inj htold.1, htold.2⟩
    exact ⟨w', hrun, hturns, hcontacts⟩
  · obtain ⟨wait, c', w', hrun⟩ : ∃ wait c' w', Campaign.postAll accounts stormyWorld =
        ((.ok ⟨true, wait⟩, c'), w') := by
      obtain ⟨_, -, _, _, c', w', hrun, -, -⟩ :=
        platforms_contain_failures.2 accounts stormyWorld hswitch
      exact ⟨_, c', w', hrun⟩
    have hended :
        (Campaign.postAll accounts stormyWorld).1.1.toOption.map Campaign.Next.wait = some 1800 ∧
        (Campaign.postAll accounts stormyWorld).2.contacts.length = 3 := by decide +kernel
    rw [hrun] at hended
    obtain rfl : wait = 1800 := Option.some.inj hended.1
    exact ⟨c', w', hrun, hended.2⟩

end Persona
