import Persona.Proofs.World.Recording
import Persona.Service.Twitter

/-!
# Tweets and the pauses between them

A tweet that is posted takes the next answer of the service, and that answer alone tells what comes
of it. Between tweets the agent sleeps. Whether a sleep comes to its end is a matter of the clock
and of the sleeps before it, and not of what else is done.

Main statements: `World.CanSleep.of_rhythm`, `World.canSleep_of_calendar`, `Twitter.post_apply`,
`World.of_paced`.
-/

namespace Persona

/-! ## What is done besides printing -/

/-- An event other than printed text. -/
def Event.deed? : Event → Option Event
  | out _ => none
  | e => some e

namespace World

/-- What was done so far, printing apart. -/
def deeds (w : World) : List Event := w.picked Event.deed?

theorem deeds_record (w : World) (e : Event) : (w.record e).deeds = w.deeds ++ e.deed?.toList :=
  picked_record (fun _ => rfl) w e

theorem deeds_print (w : World) (text : String) : (w.record (.out text)).deeds = w.deeds := by
  rw [deeds_record]
  exact List.append_nil _

theorem calls_eq_deeds (w : World) : w.calls = w.deeds.filterMap Event.call? := by
  unfold calls deeds picked
  rw [List.filterMap_filterMap]
  congr 1
  funext e
  cases e <;> rfl

theorem sleeps_eq_deeds (w : World) : w.sleeps = w.deeds.filterMap Event.sleep? := by
  unfold sleeps deeds picked
  rw [List.filterMap_filterMap]
  congr 1
  funext e
  cases e <;> rfl

end World

/-! ## Sleeping -/

/-- The clock goes on to any later moment of the calendar. -/
theorem Moment.add?_of_calendar {m : Moment} {micros : Int} (hmicros : 0 ≤ micros)
    (hstart : calendarStart.micros ≤ m.micros) (hend : m.micros + micros < calendarEnd.micros) :
    m.add? micros = .ok (m.add micros) := by
  have hspan : calendarEnd.micros = calendarStart.micros + 3652059 * 86400000000 := by decide
  have hday : perDay = 86400000000 := by decide
  have hdays : 0 ≤ micros / perDay ∧ micros / perDay ≤ 3652059 := by
    rw [hday]
    omega
  unfold add? add
  simp only [Bool.or_eq_true, decide_eq_true_eq]
  rw [if_neg (by omega), if_neg (by omega), if_neg (by omega)]

namespace World

/-- So many sleeps of so many seconds, one right after the other, all come to their end: the user
does not interrupt them, and the clock can go on so far. -/
def CanSleep (seconds : Json) : Nat → World → Prop
  | 0, _ => True
  | times + 1, w => ∃ w', Act.sleepFor seconds w = (.ok (), w') ∧ CanSleep seconds times w'

/-- What matters to sleeping. -/
def rhythm (w : World) : Moment × Int × Limits × System :=
  (w.clock, w.slept, w.limits, w.system)

variable {seconds : Json} {w w' w₁ : World}

/-- A sleep that comes to its end does so in all worlds with the same rhythm. -/
theorem sleepFor_of_rhythm (h : w₁.rhythm = w.rhythm)
    (hsleep : Act.sleepFor seconds w = (.ok (), w')) :
    ∃ w₁', Act.sleepFor seconds w₁ = (.ok (), w₁') ∧ w₁'.rhythm = w'.rhythm := by
  obtain ⟨hclock, hslept, hlimits, hsystem⟩ : w₁.clock = w.clock ∧ w₁.slept = w.slept ∧
      w₁.limits = w.limits ∧ w₁.system = w.system := by simpa [rhythm] using h
  rw [Act.sleepFor_apply] at hsleep ⊢
  rw [hclock, hslept, hlimits, hsystem]
  cases hwaking : Act.wakingTime w.system w.clock seconds with
  | error f =>
      rw [hwaking] at hsleep
      cases hsleep
  | ok clock =>
      rw [hwaking] at hsleep
      by_cases hlast : w.limits.sleeps ≤ w.slept + 1
      · simp only [if_pos hlast] at hsleep
        cases hsleep
      · simp only [if_neg hlast] at hsleep ⊢
        cases hsleep
        refine ⟨_, rfl, ?_⟩
        simp [rhythm, sleeping, record, hslept, hlimits, hsystem]

/-- A sleep uses up no answer, and it is what is done last. -/
theorem of_sleepFor_eq_ok (hsleep : Act.sleepFor seconds w = (.ok (), w')) :
    w'.twitter = w.twitter ∧ w'.deeds = w.deeds ++ [.sleep seconds] := by
  have hdeeds := deeds_record w (.sleep seconds)
  rw [Act.sleepFor_apply] at hsleep
  split at hsleep
  · cases hsleep
  · split at hsleep
    · cases hsleep
    · cases hsleep
      exact ⟨rfl, hdeeds⟩

theorem CanSleep.of_rhythm {times : Nat} (h : CanSleep seconds times w)
    (hrhythm : w₁.rhythm = w.rhythm) : CanSleep seconds times w₁ := by
  induction times generalizing w w₁ with
  | zero => trivial
  | succ times ih =>
      obtain ⟨w', hsleep, hrest⟩ := h
      obtain ⟨w₁', hsleep', hrhythm'⟩ := sleepFor_of_rhythm hrhythm hsleep
      exact ⟨w₁', hsleep', ih hrest hrhythm'⟩

/-- A whole number of seconds can be slept so often if the system takes it, if the calendar reaches
so far and if the user does not interrupt before. -/
theorem canSleep_of_calendar {seconds times : Nat}
    (hsystem : w.system.isTooLong (.whole seconds) = false)
    (hstart : Moment.calendarStart.micros ≤ w.clock.micros)
    (hend : w.clock.micros + times * (seconds * 1000000) < Moment.calendarEnd.micros)
    (hslept : w.slept + times < w.limits.sleeps) : w.CanSleep (.int seconds) times := by
  induction times generalizing w with
  | zero => trivial
  | succ times ih =>
      have hothers : (0 : Int) ≤ times * (seconds * 1000000) :=
        Int.mul_nonneg (Int.natCast_nonneg times) (by omega)
      rw [Int.natCast_succ, Int.add_mul, Int.one_mul] at hend
      have hclock : w.clock.add? (seconds * 1000000) = .ok (w.clock.add (seconds * 1000000)) :=
        Moment.add?_of_calendar (by omega) hstart (by omega)
      have hnegative : (Quantity.whole seconds).isNegative = false :=
        decide_eq_false (Int.not_lt.mpr (Int.natCast_nonneg seconds))
      have hwaking : Act.wakingTime w.system w.clock (.int seconds) =
          .ok (w.clock.add (seconds * 1000000)) := by
        simp only [Act.wakingTime, Json.quantity?, hsystem, hnegative, Quantity.microseconds,
          hclock]
        rfl
      have hsleep := Act.sleepFor_apply (.int seconds) w
      simp only [hwaking, if_neg (show ¬ w.limits.sleeps ≤ w.slept + 1 by omega)] at hsleep
      refine ⟨_, hsleep, ih hsystem ?_ ?_ ?_⟩
      · change _ ≤ w.clock.micros + seconds * 1000000
        omega
      · change w.clock.micros + seconds * 1000000 + _ < _
        omega
      · change w.slept + 1 + _ < w.limits.sleeps
        omega

end World

/-! ## Posting -/

/-- The world after a call of Twitter: the call is on record and its answer is used up. -/
def World.calling (w : World) (call : Twitter.Call) : World :=
  { w.record (.twitter call) with twitter := w.twitter.tail }

theorem World.deeds_calling (w : World) (call : Twitter.Call) :
    (w.calling call).deeds = w.deeds ++ [.twitter call] :=
  deeds_record w (.twitter call)

namespace Twitter

theorem connect_apply (keys : Credentials) (w : World) :
    connect keys w = (w.twitterClientError.elim (.ok ()) fun text => .error (.service text),
      w.record (.twitterClient keys)) := by
  have hrecord : Act.record (.twitterClient keys) w = (.ok (), w.record (.twitterClient keys)) :=
    rfl
  have herror : (w.record (.twitterClient keys)).twitterClientError = w.twitterClientError := rfl
  rw [connect, Act.bind_of_ok hrecord, Act.bind_of_ok (Act.get_apply _), herror]
  cases w.twitterClientError <;> rfl

theorem connect_of_none {w : World} (h : w.twitterClientError = none) (keys : Credentials) :
    connect keys w = (.ok (), w.record (.twitterClient keys)) := by
  rw [connect_apply, h]
  rfl

/-- What posting a tweet comes to, by the answers to come: the id of the tweet, or the fault. -/
def postedId : List (Scripted Answer) → Except Fault Json
  | [] => .error (.service "no scripted response")
  | .fails text :: _ => .error (.service text)
  | .gives (.rateLimit text) :: _ => .error (.rateLimited text)
  | .gives (.result data _) :: _ => (data.field "id").mapError .mismatch

theorem isFailure_of_postedId {answers : List (Scripted Answer)} {f : Fault}
    (h : postedId answers = .error f) : f.isFailure = true := by
  rcases answers with _ | ⟨(⟨data, includes⟩ | text) | text, rest⟩
  · cases h
    rfl
  · rw [postedId] at h
    cases hid : data.field "id" with
    | ok id =>
        rw [hid] at h
        cases h
    | error e =>
        rw [hid] at h
        cases h
        rfl
  · cases h
    rfl
  · cases h
    rfl

theorem post_apply (text : Json) (inReplyTo : Option Json) (w : World) :
    post text inReplyTo w = (postedId w.twitter, w.calling (.createTweet text inReplyTo)) := by
  have hcall := Act.twitter_apply (.createTweet text inReplyTo) w
  rcases hanswers : w.twitter with _ | ⟨(⟨data, includes⟩ | reason) | reason, rest⟩
  · have hlast : w.calling (.createTweet text inReplyTo) =
        w.record (.twitter (.createTweet text inReplyTo)) := by
      rw [World.calling, hanswers, List.tail_nil, ← hanswers]
      rfl
    rw [hanswers] at hcall
    rw [hlast]
    exact Act.bind_of_error hcall
  all_goals
    have hrest : w.calling (.createTweet text inReplyTo) =
        { w.record (.twitter (.createTweet text inReplyTo)) with twitter := rest } := by
      rw [World.calling, hanswers, List.tail_cons]
    rw [hanswers] at hcall
    rw [hrest]
  · refine (Act.bind_of_ok hcall).trans ?_
    change Act.look (data.field "id") _ = ((data.field "id").mapError .mismatch, _)
    cases data.field "id" <;> rfl
  · exact Act.bind_of_error hcall
  · exact Act.bind_of_error hcall

end Twitter

/-! ## Calls with pauses -/

/-- Calls, of which the first so many are each followed by a sleep. -/
def paced (seconds : Json) (calls : List Twitter.Call) (pauses : Nat) : List Event :=
  (calls.take pauses).flatMap (fun call => [.twitter call, .sleep seconds]) ++
    (calls.drop pauses).map .twitter

section

variable (seconds : Json)

theorem paced_zero (calls : List Twitter.Call) : paced seconds calls 0 = calls.map .twitter := rfl

theorem paced_cons (call : Twitter.Call) (calls : List Twitter.Call) (pauses : Nat) :
    paced seconds (call :: calls) (pauses + 1) =
      .twitter call :: .sleep seconds :: paced seconds calls pauses := rfl

theorem calls_paced (calls : List Twitter.Call) (pauses : Nat) :
    (paced seconds calls pauses).filterMap Event.call? = calls := by
  have hcall : Event.call? ∘ Event.twitter = some := rfl
  induction pauses generalizing calls with
  | zero => rw [paced_zero, List.filterMap_map, hcall, List.filterMap_some]
  | succ pauses ih =>
      cases calls with
      | nil => rfl
      | cons call calls => exact congrArg (call :: ·) (ih calls)

theorem sleeps_paced {calls : List Twitter.Call} {pauses : Nat} (h : pauses ≤ calls.length) :
    (paced seconds calls pauses).filterMap Event.sleep? = List.replicate pauses seconds := by
  induction pauses generalizing calls with
  | zero =>
      rw [paced_zero, List.replicate_zero, List.filterMap_eq_nil_iff]
      intro e he
      obtain ⟨call, -, rfl⟩ := List.mem_map.mp he
      rfl
  | succ pauses ih =>
      cases calls with
      | nil => exact absurd h (Nat.not_succ_le_zero pauses)
      | cons call calls =>
          exact congrArg (seconds :: ·) (ih (Nat.le_of_succ_le_succ h))

end

/-- The calls and the sleeps of a world in which a client was made and then called with pauses. -/
theorem World.of_paced {w w' : World} {keys : Twitter.Credentials} {seconds : Json}
    {calls : List Twitter.Call} {pauses : Nat} (h : pauses ≤ calls.length)
    (hdeeds : w'.deeds = w.deeds ++ .twitterClient keys :: paced seconds calls pauses) :
    w'.calls = w.calls ++ calls ∧ w'.sleeps = w.sleeps ++ List.replicate pauses seconds := by
  constructor
  · rw [calls_eq_deeds, calls_eq_deeds, hdeeds, List.filterMap_append,
      List.filterMap_cons_none rfl, calls_paced]
  · rw [sleeps_eq_deeds, sleeps_eq_deeds, hdeeds, List.filterMap_append,
      List.filterMap_cons_none rfl, sleeps_paced seconds h]

end Persona
