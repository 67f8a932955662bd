import Persona.Proofs.Campaign.Containment

/-!
# Two ways to tweet

A message goes out on Twitter alone, or as a part of the campaign. With no other platform set the
two ways do the same: they pick the same message, make the same call and take the same answer. They
part in the wait that follows a refusal for too many calls, which only the first of them tells from
any other failure.

Main statement: `Campaign.waits_agree_iff`.
-/

namespace Persona

namespace Campaign

/-! ## A tweet and its answer -/

/-- How a tweet goes, by the answers to come. -/
def Tweeted.ofAnswers : List (Scripted Twitter.Answer) → Tweeted
  | [] => .failed "no scripted response"
  | .fails reason :: _ => .failed reason
  | .gives (.rateLimit _) :: _ => .rateLimited
  | .gives (.result data _) :: _ =>
    match data.field "id" with
    | .ok id => .posted id
    | .error e => .failed (Fault.mismatch e).message

/-- The world after a message was tried: the call is on record and its answer is used up. -/
def tried (w : World) (message : String) : World :=
  { w.record (.twitter (tweetCall message)) with twitter := w.twitter.tail }

theorem contacts_tried (w : World) (message : String) :
    (tried w message).contacts = w.contacts ++ [.call (tweetCall message)] :=
  World.contacts_record w (.twitter (tweetCall message))

theorem tried_of_unanswered {w : World} (h : w.twitter = []) (message : String) :
    tried w message = w.record (.twitter (tweetCall message)) := by
  rw [tried, h, List.tail_nil, ← h]
  rfl

theorem tweet_apply (message : String) (w : World) :
    tweet message w = (.ok (Tweeted.ofAnswers w.twitter), tried w message) := by
  have hcall := Act.twitter_apply (tweetCall message) w
  cases hanswers : w.twitter with
  | nil =>
      rw [hanswers] at hcall
      rw [tried_of_unanswered hanswers]
      exact Act.recover_of_failure (Act.bind_of_error (Act.bind_of_error hcall)) rfl
  | cons answer rest =>
      rw [hanswers] at hcall
      unfold tried
      rw [hanswers]
      rcases answer with (⟨data, includes⟩ | reason) | reason
      · have hread : Twitter.post (.str (Text.take 280 message)) none w =
            Act.look (data.field "id")
              { w.record (.twitter (tweetCall message)) with twitter := rest } :=
          Act.bind_of_ok hcall
        unfold Tweeted.ofAnswers
        dsimp only
        cases hid : data.field "id" with
        | ok id =>
            rw [hid] at hread
            exact Act.recover_of_ok (Act.bind_of_ok hread)
        | error e =>
            rw [hid] at hread
            exact Act.recover_of_failure (Act.bind_of_error hread) rfl
      · exact Act.recover_of_failure (Act.bind_of_error (Act.bind_of_error hcall)) rfl
      · exact Act.recover_of_failure (Act.bind_of_error (Act.bind_of_error hcall)) rfl

/-! ## The two ways -/

/-- The wait after a message that went to Twitter alone. -/
def Tweeted.wait : Tweeted → Nat
  | posted _ => 10800
  | rateLimited => 7200
  | failed _ => 1800

/-- The wait after a message of the campaign that went to Twitter. -/
def Tweeted.campaignWait (outcome : Tweeted) : Nat :=
  if outcome.isPosted then 10800 else 1800

/-- The next answer refuses the call as one too many. -/
def refused : List (Scripted Twitter.Answer) → Bool
  | .gives (.rateLimit _) :: _ => true
  | _ => false

theorem wait_eq_campaignWait_iff (answers : List (Scripted Twitter.Answer)) :
    (Tweeted.ofAnswers answers).wait = (Tweeted.ofAnswers answers).campaignWait ↔
      refused answers = false := by
  rcases answers with _ | ⟨(⟨data, includes⟩ | reason) | reason, rest⟩
  · exact iff_of_true rfl rfl
  · refine iff_of_true ?_ rfl
    rw [Tweeted.ofAnswers]
    cases data.field "id" <;> rfl
  · exact iff_of_false (show (7200 : Nat) ≠ 1800 by decide) nofun
  · exact iff_of_true rfl rfl

theorem isHalted_of_halted {w : World} (h : w.Halted) :
    ∃ line, isHalted w = (.ok true, w.record (.out line)) := by
  have hexists := Act.fileExists_killSwitch w
  rw [h] at hexists
  exact ⟨_, Act.bind_of_ok hexists⟩

theorem isHalted_of_going {w : World} (h : ¬ w.Halted) : isHalted w = (.ok false, w) := by
  have hexists := Act.fileExists_killSwitch w
  rw [Bool.eq_false_iff.2 h] at hexists
  exact Act.bind_of_ok hexists

theorem chooseMessage_apply (w : World) :
    chooseMessage w = (.ok (Chance.pick firstMessage otherMessages w.draws).1,
      { w with draws := (Chance.pick firstMessage otherMessages w.draws).2 }) := rfl

theorem tweetAndReport_apply (message : String) (w : World) :
    ∃ line, tweetAndReport message w =
      (.ok (Tweeted.ofAnswers w.twitter).isPosted, (tried w message).record (.out line)) := by
  rw [tweetAndReport, Act.bind_of_ok (tweet_apply message w)]
  cases Tweeted.ofAnswers w.twitter <;> exact ⟨_, rfl⟩

/-- The world after one of the messages was chosen and tried. -/
def attempted (w : World) : World :=
  let (message, draws) := Chance.pick firstMessage otherMessages w.draws
  tried { w with draws } message

theorem postTweet_of_going {w : World} (h : ¬ w.Halted) :
    ∃ line, postTweet w = (.ok ⟨true, (Tweeted.ofAnswers w.twitter).wait⟩,
      (attempted w).record (.out line)) := by
  rw [postTweet, Act.bind_of_ok (isHalted_of_going h)]
  simp only [Bool.false_eq_true, if_false]
  rw [Act.bind_of_ok (chooseMessage_apply w), Act.bind_of_ok (tweet_apply _ _)]
  cases Tweeted.ofAnswers w.twitter <;> exact ⟨_, rfl⟩

theorem postAll_of_going {c : Campaign} (hdiscord : isSet c.discordUrl = false)
    (hbluesky : isSet c.handle = false) {w : World} (h : ¬ w.Halted) :
    ∃ line, postAll c w = ((.ok ⟨true, (Tweeted.ofAnswers w.twitter).campaignWait⟩, c),
      (attempted w).record (.out line)) := by
  obtain ⟨line, htweet⟩ := tweetAndReport_apply (Chance.pick firstMessage otherMessages w.draws).1
    { w with draws := (Chance.pick firstMessage otherMessages w.draws).2 }
  refine ⟨line, ?_⟩
  rw [postAll, ActOn.bind_lift_of_ok (isHalted_of_going h)]
  simp only [Bool.false_eq_true, if_false]
  rw [ActOn.bind_of_ok (ActOn.get_apply c w), ActOn.bind_lift_of_ok (chooseMessage_apply w),
    ActOn.bind_lift_of_ok htweet, hdiscord, hbluesky]
  cases Tweeted.ofAnswers w.twitter <;> rfl

/-- With neither Discord nor Bluesky set, a message to Twitter alone and one of the campaign come to
the same world but for the line that is printed last: with the kill switch down nobody is called,
and else Twitter is, once, with the same one of the messages. They go on after the same time exactly
if the kill switch is down or the answer is no refusal for too many calls. -/
theorem waits_agree_iff (c : Campaign) (w : World) (hdiscord : isSet c.discordUrl = false)
    (hbluesky : isSet c.handle = false) :
    ∃ next next' reached line line',
      postTweet w = (.ok next, reached.record (.out line)) ∧
      postAll c w = ((.ok next', c), reached.record (.out line')) ∧
      (w.Halted → reached = w ∧ next = ⟨false, 0⟩) ∧
      (¬ w.Halted →
        (∃ message ∈ firstMessage :: otherMessages,
          reached.contacts = w.contacts ++ [.call (tweetCall message)]) ∧
        next = ⟨true, (Tweeted.ofAnswers w.twitter).wait⟩ ∧
        next' = ⟨true, (Tweeted.ofAnswers w.twitter).campaignWait⟩) ∧
      (next = next' ↔ w.Halted ∨ refused w.twitter = false) := by
  by_cases h : w.Halted
  · obtain ⟨line, hhalted⟩ := isHalted_of_halted h
    refine ⟨⟨false, 0⟩, ⟨false, 0⟩, w, line, line, ?_, ?_, fun _ => ⟨rfl, rfl⟩, absurd h, ?_⟩
    · rw [postTweet, Act.bind_of_ok hhalted]
      rfl
    · rw [postAll, ActOn.bind_lift_of_ok hhalted]
      rfl
    · exact iff_of_true rfl (.inl h)
  · obtain ⟨line, halone⟩ := postTweet_of_going h
    obtain ⟨line', hall⟩ := postAll_of_going hdiscord hbluesky h
    refine ⟨_, _, attempted w, line, line', halone, hall, fun hdown => absurd hdown h,
      fun _ => ⟨⟨_, Chance.pick_mem .., contacts_tried _ _⟩, rfl, rfl⟩, ?_⟩
    rw [Next.mk.injEq, wait_eq_campaignWait_iff]
    simp [h]

/-- A campaign with nothing but Twitter set. -/
def twitterOnly : Campaign := ⟨none, none, none, .null⟩

/-- A world in which Twitter answers that the message is out. -/
def welcoming : World where
  clock := ⟨0⟩
  draws := ⟨[], 0⟩
  twitter := [.gives (.result (.obj [("id", .str "7")]) .null)]

/-- A world in which Twitter refuses the call as one too many. -/
def busy : World where
  clock := ⟨0⟩
  draws := ⟨[], 0⟩
  twitter := [.gives (.rateLimit "429 Too Many Requests")]

/-- After a message that went out both ways wait for the interval. -/
theorem waits_agree_welcoming :
    isSet twitterOnly.discordUrl = false ∧ isSet twitterOnly.handle = false ∧
    ∃ w₁ w₂, postTweet welcoming = (.ok ⟨true, 10800⟩, w₁) ∧
      postAll twitterOnly welcoming = ((.ok ⟨true, 10800⟩, twitterOnly), w₂) := by
  refine ⟨rfl, rfl, ?_⟩
  obtain ⟨next, next', reached, _, _, halone, hall, -, hgoing, hiff⟩ :=
    waits_agree_iff twitterOnly welcoming rfl rfl
  have hnext : next = ⟨true, 10800⟩ := (hgoing (by decide)).2.1
  have hsame : next = next' := hiff.2 (.inr rfl)
  rw [← hsame] at hall
  rw [hnext] at halone hall
  exact ⟨_, _, halone, hall⟩

/-- After a refusal for too many calls the campaign waits for half an hour, where a message to
Twitter alone would have waited for two hours. -/
theorem waits_differ_busy :
    isSet twitterOnly.discordUrl = false ∧ isSet twitterOnly.handle = false ∧
    ∃ w₁ w₂, postTweet busy = (.ok ⟨true, 7200⟩, w₁) ∧
      postAll twitterOnly busy = ((.ok ⟨true, 1800⟩, twitterOnly), w₂) :=
  ⟨rfl, rfl, _, _, rfl, rfl⟩

end Campaign

end Persona
