import Persona.Posting.Retry
import Persona.Proofs.Number.Digits
import Persona.Proofs.Service.Posting

/-!
# Posting until the rate limit allows it

A tweet is tried again after each refusal for too many calls, and only then. So the number of
refusals before the first other answer tells how often the service is called, how often the agent
sleeps and what comes of it, as long as it can say that it waits and can sleep so often.

Main statement: `retries_as_refused`.
-/

namespace Persona.Posting

open Twitter (postedId)

/-! ## Answers -/

/-- The answer refuses a call as one too many. -/
def isRefusal : Scripted Twitter.Answer → Bool
  | .gives (.rateLimit _) => true
  | _ => false

/-- The number of refusals before the first other answer. -/
def refusals (answers : List (Scripted Twitter.Answer)) : Nat :=
  (answers.takeWhile isRefusal).length

/-- What one try comes to, by the answers to come: the id of the tweet as it is shown, or the
fault. -/
def outcome (answers : List (Scripted Twitter.Answer)) : Except Fault String := do
  let id ← postedId answers
  if id.isShowable then .ok id.text else .error .tooManyDigits

/-- What the first answer that is no refusal makes of a tweet. -/
def settled (answers : List (Scripted Twitter.Answer)) : Except Fault String :=
  outcome (answers.drop (refusals answers))

/-- What is said of a tweet that was posted, or not. -/
def report : Except Fault String → String
  | .ok id => "✅ Posted: " ++ Twitter.statusUrl (.str id)
  | .error f => "❌ Failed: " ++ f.message

theorem outcome_of_ok {answers : List (Scripted Twitter.Answer)} {id : Json}
    (h : postedId answers = .ok id) :
    outcome answers = if id.isShowable then .ok id.text else .error .tooManyDigits := by
  rw [outcome, h]
  rfl

theorem outcome_of_error {answers : List (Scripted Twitter.Answer)} {f : Fault}
    (h : postedId answers = .error f) : outcome answers = .error f := by
  rw [outcome, h]
  rfl

/-- After a refusal it is up to the answers that follow. -/
theorem refusals_cons (text : String) (rest : List (Scripted Twitter.Answer)) :
    refusals (.gives (.rateLimit text) :: rest) = refusals rest + 1 ∧
      settled (.gives (.rateLimit text) :: rest) = settled rest :=
  ⟨rfl, rfl⟩

/-- Answers start with a refusal, or the first of them settles the tweet. -/
theorem refusals_cases (answers : List (Scripted Twitter.Answer)) :
    (∃ text rest, answers = .gives (.rateLimit text) :: rest) ∨
      refusals answers = 0 ∧ settled answers = outcome answers ∧
        ∀ text, outcome answers ≠ .error (.rateLimited text) := by
  rcases answers with _ | ⟨(⟨data, includes⟩ | text) | text, rest⟩
  · exact .inr ⟨rfl, rfl, fun _ h => by cases h⟩
  · refine .inr ⟨rfl, rfl, fun text h => ?_⟩
    have hposted : postedId (.gives (.result data includes) :: rest) =
        (data.field "id").mapError .mismatch := rfl
    cases hid : data.field "id" with
    | ok id =>
        rw [hid] at hposted
        rw [outcome_of_ok hposted] at h
        split at h <;> cases h
    | error e =>
        rw [hid] at hposted
        rw [outcome_of_error hposted] at h
        cases h
  · exact .inl ⟨text, rest, rfl⟩
  · exact .inr ⟨rfl, rfl, fun _ h => by cases h⟩

/-! ## One try -/

/-- How a try ends, by what posting comes to. -/
def Attempt.ofResult : Except Fault String → Attempt
  | .ok id => posted id
  | .error (.rateLimited _) => rateLimited
  | .error f => failed f.message

theorem attempt_apply (tweet : Json) (w : World) :
    attempt tweet w =
      (.ok (Attempt.ofResult (outcome w.twitter)), w.calling (.createTweet tweet none)) := by
  have hpost := Twitter.post_apply tweet none w
  unfold attempt
  cases hid : postedId w.twitter with
  | ok id =>
      rw [hid] at hpost
      have hshown := Act.shown_apply id (w.calling (.createTweet tweet none))
      rw [outcome_of_ok hid]
      cases h : id.isShowable with
      | true =>
          rw [h] at hshown
          exact Act.recover_of_ok ((Act.bind_of_ok hpost).trans (Act.bind_of_ok hshown))
      | false =>
          rw [h] at hshown
          have hreport : (do return .posted (← Act.shown id) : Act Attempt) _ = _ :=
            Act.bind_of_error hshown
          have hrun : (do
              let id ← Twitter.post tweet none
              return .posted (← Act.shown id) : Act Attempt) w = _ :=
            (Act.bind_of_ok hpost).trans hreport
          exact Act.recover_of_failure hrun rfl
  | error f =>
      rw [hid] at hpost
      rw [Act.recover_of_failure (Act.bind_of_error hpost) (Twitter.isFailure_of_postedId hid),
        outcome_of_error hid]
      cases f <;> rfl

section

variable (tweet retries delay : Json) (done left : Nat)

/-- A try that is settled is the last one. -/
theorem tries_of_settled {w : World} (h : ∀ text, outcome w.twitter ≠ .error (.rateLimited text)) :
    tries tweet retries delay done (left + 1) w =
      (.ok (report (outcome w.twitter)), w.calling (.createTweet tweet none)) := by
  rw [tries, Act.bind_of_ok (attempt_apply tweet w)]
  cases hid : outcome w.twitter with
  | ok id => rfl
  | error f =>
      cases f with
      | rateLimited text => exact absurd hid (h text)
      | _ => rfl

/-- After a refusal a line is printed. Then the agent sleeps, and the next try follows. -/
theorem tries_of_refused {w : World} {text : String} {rest : List (Scripted Twitter.Answer)}
    (h : w.twitter = .gives (.rateLimit text) :: rest) (hdelay : delay.isShowable = true)
    (hretries : retries.isShowable = true) :
    ∃ w₁ : World, tries tweet retries delay done (left + 1) w =
        (do
          Act.sleepFor delay
          tries tweet retries delay (done + 1) left : Act String) w₁ ∧
      w₁.rhythm = w.rhythm ∧ w₁.twitter = rest ∧
      w₁.deeds = w.deeds ++ [.twitter (.createTweet tweet none)] := by
  have houtcome : outcome w.twitter = .error (.rateLimited text) := by rw [h]; rfl
  have hshown {v : Json} (hv : v.isShowable = true) (w : World) :
      Act.shown v w = (.ok v.text, w) := by rw [Act.shown_apply, hv]; rfl
  have hnow (w : World) : Act.now w = (.ok w.clock, w) := rfl
  rw [tries, Act.bind_of_ok (attempt_apply tweet w), houtcome]
  simp only [Attempt.ofResult]
  rw [Act.bind_of_ok (hnow _), Act.bind_of_ok (hshown hdelay _), Act.bind_of_ok (hshown hretries _)]
  refine ⟨_, rfl, rfl, congrArg List.tail h, ?_⟩
  exact (World.deeds_print _ _).trans (World.deeds_calling w _)

/-- A line that cannot be printed ends the tries. -/
theorem tries_of_not_showable {w : World} {text : String} {rest : List (Scripted Twitter.Answer)}
    (h : w.twitter = .gives (.rateLimit text) :: rest)
    (hshown : ¬ (delay.isShowable = true ∧ retries.isShowable = true)) :
    tries tweet retries delay done (left + 1) w =
      (.error .tooManyDigits, w.calling (.createTweet tweet none)) := by
  have houtcome : outcome w.twitter = .error (.rateLimited text) := by rw [h]; rfl
  have hnow (w : World) : Act.now w = (.ok w.clock, w) := rfl
  have hdelay := Act.shown_apply delay (w.calling (.createTweet tweet none))
  have hretries := Act.shown_apply retries (w.calling (.createTweet tweet none))
  rw [tries, Act.bind_of_ok (attempt_apply tweet w), houtcome]
  simp only [Attempt.ofResult]
  rw [Act.bind_of_ok (hnow _)]
  cases hd : delay.isShowable with
  | false =>
      rw [hd] at hdelay
      exact Act.bind_of_error hdelay
  | true =>
      have hr : retries.isShowable = false := Bool.eq_false_iff.mpr fun hr => hshown ⟨hd, hr⟩
      rw [hd] at hdelay
      rw [hr] at hretries
      exact (Act.bind_of_ok hdelay).trans (Act.bind_of_error hretries)

end

/-! ## All tries -/

/-- What comes of a tweet when so many tries are allowed. -/
def verdict (allowed : Nat) (answers : List (Scripted Twitter.Answer)) : String :=
  if refusals answers < allowed then report (settled answers) else "❌ Max retries exceeded"

/-- So many refusals can be waited out: the line about them has a text, and the sleeps all come to
their end. -/
structure CanWait (retries delay : Json) (times : Nat) (w : World) : Prop where
  shown : 0 < times → delay.isShowable = true ∧ retries.isShowable = true
  sleeps : w.CanSleep delay times

namespace CanWait

variable {retries delay : Json} {times : Nat} {w w₁ : World}

theorem of_rhythm (h : CanWait retries delay times w) (hrhythm : w₁.rhythm = w.rhythm) :
    CanWait retries delay times w₁ :=
  ⟨h.shown, h.sleeps.of_rhythm hrhythm⟩

/-- The first refusal is waited out by a sleep, after which the others can be. -/
theorem succ (h : CanWait retries delay (times + 1) w) :
    ∃ w', Act.sleepFor delay w = (.ok (), w') ∧ CanWait retries delay times w' := by
  obtain ⟨w', hsleep, hothers⟩ := h.sleeps
  exact ⟨w', hsleep, fun _ => h.shown (Nat.succ_pos times), hothers⟩

end CanWait

section

variable (tweet retries delay : Json)

theorem tries_of_canWait (done left : Nat) {w : World}
    (h : CanWait retries delay (min (refusals w.twitter) left) w) :
    ∃ w', tries tweet retries delay done left w = (.ok (verdict left w.twitter), w') ∧
      w'.deeds = w.deeds ++ paced delay (List.replicate (min (refusals w.twitter + 1) left)
        (.createTweet tweet none)) (min (refusals w.twitter) left) := by
  induction left generalizing done w with
  | zero => exact ⟨w, rfl, by simp [paced]⟩
  | succ left ih =>
      rcases refusals_cases w.twitter with ⟨text, rest, hanswers⟩ | ⟨hnone, hsettled, hother⟩
      · obtain ⟨hcount, hsettled⟩ := refusals_cons text rest
        rw [← hanswers] at hcount hsettled
        rw [hcount, Nat.add_min_add_right] at h
        obtain ⟨hdelay, hretries⟩ := h.shown (Nat.succ_pos _)
        obtain ⟨w₁, htries, hrhythm, rfl, hcall⟩ :=
          tries_of_refused tweet retries delay done left hanswers hdelay hretries
        obtain ⟨w₂, hsleep, hothers⟩ := (h.of_rhythm hrhythm).succ
        obtain ⟨htwitter, hdeeds⟩ := World.of_sleepFor_eq_ok hsleep
        rw [← htwitter] at hothers hcount hsettled
        obtain ⟨w', hlater, hdeeds'⟩ := ih (done + 1) hothers
        refine ⟨w', htries.trans ((Act.bind_of_ok hsleep).trans (hlater.trans ?_)), ?_⟩
        · rw [verdict, verdict, hcount, hsettled]
          simp
        · rw [hdeeds', hdeeds, hcall, hcount, Nat.add_min_add_right, Nat.add_min_add_right,
            List.replicate_succ, paced_cons]
          simp
      · refine ⟨w.calling (.createTweet tweet none),
          (tries_of_settled tweet retries delay done left hother).trans ?_, ?_⟩
        · rw [verdict, hnone, if_pos (Nat.succ_pos left), hsettled]
        · rw [World.deeds_calling, hnone]
          simp [paced]

/-- A refusal that cannot be waited out ends the tries. -/
theorem tries_of_not_canWait (done left : Nat) {w : World}
    (h : ¬ CanWait retries delay (min (refusals w.twitter) left) w) :
    ∃ f w', tries tweet retries delay done left w = (.error f, w') := by
  have hnever (w : World) : CanWait retries delay 0 w :=
    ⟨fun h => absurd h (Nat.lt_irrefl 0), trivial⟩
  induction left generalizing done w with
  | zero =>
      rw [Nat.min_zero] at h
      exact absurd (hnever w) h
  | succ left ih =>
      rcases refusals_cases w.twitter with ⟨text, rest, hanswers⟩ | ⟨hnone, -, -⟩
      · rw [hanswers, (refusals_cons text rest).1, Nat.add_min_add_right] at h
        by_cases hshown : delay.isShowable = true ∧ retries.isShowable = true
        · obtain ⟨w₁, htries, hrhythm, rfl, -⟩ :=
            tries_of_refused tweet retries delay done left hanswers hshown.1 hshown.2
          rcases hsleep : Act.sleepFor delay w₁ with ⟨f | _, w₂⟩
          · exact ⟨f, w₂, htries.trans (Act.bind_of_error hsleep)⟩
          · have hothers : ¬ CanWait retries delay (min (refusals w₂.twitter) left) w₂ := by
              rw [(World.of_sleepFor_eq_ok hsleep).1]
              exact fun hothers => h (CanWait.of_rhythm
                ⟨fun _ => hshown, w₂, hsleep, hothers.sleeps⟩ hrhythm.symm)
            obtain ⟨f, w', hlater⟩ := ih (done + 1) hothers
            exact ⟨f, w', htries.trans ((Act.bind_of_ok hsleep).trans hlater)⟩
        · exact ⟨_, _, tries_of_not_showable tweet retries delay done left hanswers hshown⟩
      · rw [hnone, Nat.zero_min] at h
        exact absurd (hnever w) h

end

/-! ## What is said -/

/-- The beginning tells the reports of a tweet that was posted, of one that was not, and of one that
was tried too often from each other. -/
theorem startsWith_report (r : Except Fault String) :
    Text.startsWith (report r) "✅ Posted" = r.toOption.isSome ∧
      Text.startsWith (report r) "❌ Failed" = r.toOption.isNone ∧
      report r ≠ "❌ Max retries exceeded" := by
  cases r with
  | ok id =>
      refine ⟨?_, ?_, fun heq => ?_⟩
      · simp [report, Text.startsWith, Text.dropPattern?, Except.toOption]
      · simp [report, Text.startsWith, Text.dropPattern?, Except.toOption]
      · simpa [report] using congrArg String.toList heq
  | error f =>
      refine ⟨?_, ?_, fun heq => ?_⟩
      · simp [report, Text.startsWith, Text.dropPattern?, Except.toOption]
      · simp [report, Text.startsWith, Text.dropPattern?, Except.toOption]
      · simpa [report] using congrArg String.toList heq

/-- The first answer that is no refusal counts if it is among those to the tries. -/
theorem verdict_cases (n : Nat) (answers : List (Scripted Twitter.Answer)) :
    (refusals answers < n → verdict n answers = report (settled answers)) ∧
    (Text.startsWith (verdict n answers) "✅ Posted" = true ↔
      refusals answers < n ∧ ∃ id, settled answers = .ok id) ∧
    (Text.startsWith (verdict n answers) "❌ Failed" = true ↔
      refusals answers < n ∧ ∃ f, settled answers = .error f) ∧
    (verdict n answers = "❌ Max retries exceeded" ↔ n ≤ refusals answers) := by
  obtain ⟨hposted, hfailed, hnever⟩ := startsWith_report (settled answers)
  unfold verdict
  by_cases h : refusals answers < n
  · rw [if_pos h, hposted, hfailed]
    refine ⟨fun _ => rfl, ?_, ?_, iff_of_false hnever (Nat.not_le.mpr h)⟩
    · cases settled answers <;> simp [Except.toOption, h]
    · cases settled answers <;> simp [Except.toOption, h]
  · rw [if_neg h]
    refine ⟨fun hlt => absurd hlt h, ?_, ?_, iff_of_true rfl (Nat.le_of_not_lt h)⟩
    · exact iff_of_false (by decide) fun hlt => h hlt.1
    · exact iff_of_false (by decide) fun hlt => h hlt.1

/-! ## The client -/

/-- The settings that a client is made with. -/
def keyNames : List String :=
  ["TWITTER_API_KEY", "TWITTER_API_SECRET", "TWITTER_ACCESS_TOKEN", "TWITTER_ACCESS_SECRET"]

/-- The keys that settings hold. -/
def keysOf (settings : List (String × String)) : Twitter.Credentials :=
  ⟨Fields.get? settings "TWITTER_API_KEY", Fields.get? settings "TWITTER_API_SECRET",
    Fields.get? settings "TWITTER_ACCESS_TOKEN", Fields.get? settings "TWITTER_ACCESS_SECRET", none⟩

theorem connect_of_keys {settings : List (String × String)} {w : World}
    (h : ∀ name ∈ keyNames, (Fields.get? settings name).isSome = true)
    (hclient : w.twitterClientError = none) :
    connect settings w = (.ok (), w.record (.twitterClient (keysOf settings))) := by
  have hrequired {name value : String} (hname : Fields.get? settings name = some value) :
      required settings name w = (.ok value, w) := by
    rw [required, hname]
    rfl
  simp only [keyNames, List.forall_mem_cons, Option.isSome_iff_exists] at h
  obtain ⟨⟨a, ha⟩, ⟨b, hb⟩, ⟨c, hc⟩, ⟨d, hd⟩, -⟩ := h
  rw [connect, Act.bind_of_ok (hrequired ha), Act.bind_of_ok (hrequired hb),
    Act.bind_of_ok (hrequired hc), Act.bind_of_ok (hrequired hd), Twitter.connect_of_none hclient,
    keysOf, ha, hb, hc, hd]

/-- With a client the tries begin, as many as the number says. -/
theorem postWithRetry_of_keys {settings : List (String × String)} {tweet retries delay : Json}
    {n : Nat} {w : World} (hkeys : ∀ name ∈ keyNames, (Fields.get? settings name).isSome = true)
    (hclient : w.twitterClientError = none) (hn : retries.whole? = some (n : Int)) :
    postWithRetry settings tweet retries delay w =
      tries tweet retries delay 0 n (w.record (.twitterClient (keysOf settings))) := by
  rw [postWithRetry, Act.bind_of_ok (connect_of_keys hkeys hclient), hn]
  rfl

/-- With `n` tries allowed and `k` refusals before the first other answer, posting a tweet comes to
a report if the agent can wait as often as the lesser of the two, and fails if it cannot. Up to the
report Twitter is called `k + 1` times but no more than `n` times, always with the same tweet, and
after each refusal the agent sleeps for the delay. The report tells what the first other answer
makes of the tweet, if that answers one of the tries. -/
theorem retries_as_refused (settings : List (String × String)) (tweet retries delay : Json)
    (n : Nat) (w : World) (hkeys : ∀ name ∈ keyNames, (Fields.get? settings name).isSome = true)
    (hclient : w.twitterClientError = none) (hn : retries.whole? = some (n : Int)) :
    let k := refusals w.twitter
    (CanWait retries delay (min k n) w → ∃ text w',
      postWithRetry settings tweet retries delay w = (.ok text, w') ∧
      w'.calls = w.calls ++ List.replicate (min (k + 1) n) (.createTweet tweet none) ∧
      w'.sleeps = w.sleeps ++ List.replicate (min k n) delay ∧
      w'.deeds = w.deeds ++ .twitterClient (keysOf settings) ::
        paced delay (List.replicate (min (k + 1) n) (.createTweet tweet none)) (min k n) ∧
      (k < n → text = report (settled w.twitter)) ∧
      (Text.startsWith text "✅ Posted" = true ↔ k < n ∧ ∃ id, settled w.twitter = .ok id) ∧
      (Text.startsWith text "❌ Failed" = true ↔ k < n ∧ ∃ f, settled w.twitter = .error f) ∧
      (text = "❌ Max retries exceeded" ↔ n ≤ k)) ∧
    (¬ CanWait retries delay (min k n) w → ∃ f w',
      postWithRetry settings tweet retries delay w = (.error f, w')) := by
  intro k
  let w₁ := w.record (.twitterClient (keysOf settings))
  have hrhythm : w₁.rhythm = w.rhythm := rfl
  rw [postWithRetry_of_keys hkeys hclient hn]
  constructor
  · intro hwaits
    have hwaits₁ : CanWait retries delay (min (refusals w₁.twitter) n) w₁ :=
      hwaits.of_rhythm hrhythm
    obtain ⟨w', htries, hdeeds⟩ := tries_of_canWait tweet retries delay 0 n hwaits₁
    have hdeeds₁ : w₁.deeds = w.deeds ++ [.twitterClient (keysOf settings)] := w.deeds_record _
    have hdone : w'.deeds = w.deeds ++ .twitterClient (keysOf settings) ::
        paced delay (List.replicate (min (k + 1) n) (.createTweet tweet none)) (min k n) := by
      rw [hdeeds, hdeeds₁, List.append_assoc]
      rfl
    have hpauses : min k n ≤ (List.replicate (min (k + 1) n)
        (Twitter.Call.createTweet tweet none)).length := by
      rw [List.length_replicate]
      omega
    obtain ⟨hcalls, hslept⟩ := World.of_paced hpauses hdone
    exact ⟨_, w', htries, hcalls, hslept, hdone, verdict_cases n w.twitter⟩
  · intro hwaits
    have hwaits₁ : ¬ CanWait retries delay (min (refusals w₁.twitter) n) w₁ :=
      fun h => hwaits (h.of_rhythm hrhythm.symm)
    exact tries_of_not_canWait tweet retries delay 0 n hwaits₁

/-- A number of at most fourteen digits can be shown. -/
theorem isShowable_of_lt {n : Int} (h : n.natAbs < Number.tenPow 14) :
    (Json.int n).isShowable = true :=
  Json.isShowable_int_iff.mpr (Number.lt_tenPow_of_le h (by decide))

/-- Settings with all keys. -/
def badge : List (String × String) := keyNames.map fun name => (name, "secret")

/-- A world in which Twitter refuses two calls and then posts the tweet. -/
def crowded : World where
  clock := ⟨0⟩
  draws := ⟨[], 0⟩
  twitter := [.gives (.rateLimit "429 Too Many Requests"),
    .gives (.rateLimit "429 Too Many Requests"),
    .gives (.result (.obj [("id", .str "7")]) .null)]

/-- The third try is the last one allowed, and the tweet is posted. -/
theorem retries_as_refused_crowded :
    (∀ name ∈ keyNames, (Fields.get? badge name).isSome = true) ∧
    crowded.twitterClientError = none ∧ CanWait (.int 3) (.int 300) 2 crowded ∧
    ∃ w', postWithRetry badge (.str "hello") (.int 3) (.int 300) crowded =
        (.ok "✅ Posted: https://twitter.com/i/status/7", w') ∧
      w'.calls = List.replicate 3 (.createTweet (.str "hello") none) ∧
      w'.sleeps = List.replicate 2 (.int 300) := by
  have hkeys : ∀ name ∈ keyNames, (Fields.get? badge name).isSome = true :=
    List.all_eq_true.mp (by decide)
  have hwaits : CanWait (.int 3) (.int 300) 2 crowded :=
    ⟨fun _ => ⟨isShowable_of_lt (by decide), isShowable_of_lt (by decide)⟩,
      World.canSleep_of_calendar rfl (by decide) (by decide) (by decide)⟩
  obtain ⟨text, w', hrun, hcalls, hslept, -, htext, -⟩ :=
    (retries_as_refused badge (.str "hello") (.int 3) (.int 300) 3 crowded hkeys rfl rfl).1 hwaits
  rw [htext (by decide)] at hrun
  exact ⟨hkeys, rfl, hwaits, w', hrun, hcalls, hslept⟩

/-- A delay from which the clock cannot come back: no report is made after the one try, although the
user does not interrupt. -/
theorem no_report_after_endless_delay :
    (∀ name ∈ keyNames, (Fields.get? badge name).isSome = true) ∧
    crowded.twitterClientError = none ∧ refusals crowded.twitter = 2 ∧
    crowded.slept + 1 < crowded.limits.sleeps ∧
    (Quantity.whole 10000000000000).isNegative = false ∧
    (postWithRetry badge (.str "hello") (.int 1) (.int 10000000000000) crowded).1 =
      .error (.clockRange .calendar) := by
  have hkeys : ∀ name ∈ keyNames, (Fields.get? badge name).isSome = true :=
    List.all_eq_true.mp (by decide)
  refine ⟨hkeys, rfl, rfl, by decide, rfl, ?_⟩
  obtain ⟨w₁, htries, hrhythm, -, -⟩ := tries_of_refused (.str "hello") (.int 1)
    (.int 10000000000000) 0 0 (w := crowded.record (.twitterClient (keysOf badge))) rfl
    (isShowable_of_lt (by decide)) (isShowable_of_lt (by decide))
  obtain ⟨hclock, -, -, hsystem⟩ : w₁.clock = crowded.clock ∧ w₁.slept = crowded.slept ∧
      w₁.limits = crowded.limits ∧ w₁.system = crowded.system := by
    simpa [World.rhythm, World.record] using hrhythm
  have hsleep : Act.sleepFor (.int 10000000000000) w₁ =
      (.error (.clockRange .calendar), w₁.record (.sleep (.int 10000000000000))) := by
    rw [Act.sleepFor_apply, hclock, hsystem]
    rfl
  rw [postWithRetry_of_keys hkeys rfl (n := 1) rfl, htries, Act.bind_of_error hsleep]

end Persona.Posting
