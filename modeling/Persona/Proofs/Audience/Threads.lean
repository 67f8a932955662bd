import Persona.Audience.Growth
import Persona.Proofs.Service.Posting

/-!
# Threads

A thread is posted tweet by tweet, each in reply to the one before, up to the first that fails. So
the ids that the answers give up to there tell what is called, how often the agent sleeps and which
id is the last.

Main statement: `thread_chained`.
-/

namespace Persona.Audience

open Twitter (postedId)

/-! ## Answers -/

/-- The ids that the answers give, up to the first that gives none, for so many tweets. -/
def threadIds : Nat → List (Scripted Twitter.Answer) → List Json
  | 0, _ => []
  | size + 1, answers => match postedId answers with
    | .ok id => id :: threadIds size answers.tail
    | .error _ => []

section

variable (size : Nat) {answers : List (Scripted Twitter.Answer)}

theorem threadIds_of_ok {id : Json} (h : postedId answers = .ok id) :
    threadIds (size + 1) answers = id :: threadIds size answers.tail := by
  rw [threadIds, h]

theorem threadIds_of_error {f : Fault} (h : postedId answers = .error f) :
    threadIds (size + 1) answers = [] := by
  rw [threadIds, h]

/-- The ids are those of the first answers, and if they are too few, the next answer gives none. -/
theorem threadIds_spec (size : Nat) (answers : List (Scripted Twitter.Answer)) :
    (∀ i id, (threadIds size answers)[i]? = some id → postedId (answers.drop i) = .ok id) ∧
    (threadIds size answers).length ≤ size ∧
    ((threadIds size answers).length < size →
      ∃ f, postedId (answers.drop (threadIds size answers).length) = .error f) := by
  induction size generalizing answers with
  | zero => exact ⟨nofun, Nat.le_refl 0, nofun⟩
  | succ size ih =>
      cases hid : postedId answers with
      | error f =>
          rw [threadIds_of_error size hid]
          exact ⟨nofun, Nat.zero_le _, fun _ => ⟨f, hid⟩⟩
      | ok id =>
          obtain ⟨hids, hle, hlast⟩ := ih answers.tail
          rw [threadIds_of_ok size hid, List.length_cons]
          simp only [List.drop_tail] at hids hlast
          refine ⟨fun i id' h => ?_, Nat.succ_le_succ hle,
            fun h => hlast (Nat.lt_of_succ_lt_succ h)⟩
          cases i with
          | zero => exact hid.trans (congrArg Except.ok (Option.some.inj h))
          | succ i => exact hids i id' h

end

/-! ## One tweet -/

/-- What a tweet after one with this id is in reply to. -/
def parent (previous : Json) : Option Json := if previous.truthy then some previous else none

section

variable (size : Nat) (previous : Json) (position : Nat) (tweet : Json) (rest : List Json)
  {w : World}

/-- A tweet that fails is the last one. -/
theorem postAfter_of_failed {f : Fault} (h : postedId w.twitter = .error f) :
    ∃ w', postAfter size previous position (tweet :: rest) w = (.ok previous, w') ∧
      w'.deeds = w.deeds ++ [.twitter (.createTweet tweet (parent previous))] := by
  have hfailure := Twitter.isFailure_of_postedId h
  have hpost := Twitter.post_apply tweet (parent previous) w
  rw [h] at hpost
  have hfailed : recover (do
      let id ← Twitter.post tweet (parent previous)
      return some id) (threadFailure position none) w =
        threadFailure position none f (w.calling (.createTweet tweet (parent previous))) :=
    Act.recover_of_failure (Act.bind_of_error hpost) hfailure
  refine ⟨_, Act.bind_of_ok hfailed, ?_⟩
  exact (World.deeds_print _ _).trans (World.deeds_calling w _)

/-- After a tweet that is posted a line is printed. Then the agent sleeps, and the next tweet
follows. -/
theorem postAfter_of_posted {id : Json} (h : postedId w.twitter = .ok id) :
    ∃ w₁ : World, w₁.rhythm = w.rhythm ∧ w₁.twitter = w.twitter.tail ∧
      w₁.deeds = w.deeds ++ [.twitter (.createTweet tweet (parent previous))] ∧
      ∀ w₂, Act.sleepFor (.int 2) w₁ = (.ok (), w₂) →
        postAfter size previous position (tweet :: rest) w =
          postAfter size id (position + 1) rest w₂ := by
  have hpost := Twitter.post_apply tweet (parent previous) w
  rw [h] at hpost
  let line := "✅ Thread " ++ Number.natText (position + 1) ++ "/" ++ Number.natText size ++ ": " ++
    id.text ++ "\n"
  let w₁ := (w.calling (.createTweet tweet (parent previous))).record (.out line)
  refine ⟨w₁, rfl, rfl, (World.deeds_print _ _).trans (World.deeds_calling w _),
    fun w₂ hsleep => ?_⟩
  have hposted : recover (do
      let id ← Twitter.post tweet (parent previous)
      return some id) (threadFailure position none) w =
        (.ok (some id), w.calling (.createTweet tweet (parent previous))) :=
    Act.recover_of_ok (Act.bind_of_ok hpost)
  refine (Act.bind_of_ok hposted).trans (Act.bind_of_ok (a := true) (Act.recover_of_ok ?_))
  exact Act.bind_of_ok hsleep

end

/-! ## All tweets -/

/-- The calls that post tweets as a thread, where the tweets got these ids. -/
def chain (parent : Option Json) (tweets ids : List Json) : List Twitter.Call :=
  List.zipWith .createTweet tweets (parent :: ids.map some)

theorem chain_of_failed (parent : Option Json) (tweet : Json) (rest : List Json) :
    chain parent (tweet :: rest) [] = [.createTweet tweet parent] := by
  rw [chain, List.map_nil, List.zipWith_cons_cons, List.zipWith_nil_right]

theorem chain_of_posted (parent : Option Json) (tweet id : Json) (rest ids : List Json) :
    chain parent (tweet :: rest) (id :: ids) =
      .createTweet tweet parent :: chain (some id) rest ids := by
  rw [chain, List.map_cons, List.zipWith_cons_cons, chain]

theorem le_length_chain (parent : Option Json) {tweets ids : List Json}
    (h : ids.length ≤ tweets.length) : ids.length ≤ (chain parent tweets ids).length := by
  rw [chain, List.length_zipWith, List.length_cons, List.length_map]
  exact Nat.le_min.mpr ⟨h, Nat.le_succ _⟩

theorem postAfter_chained (size : Nat) (previous : Json) (position : Nat) (tweets : List Json)
    {w : World} (hids : ∀ id ∈ threadIds tweets.length w.twitter, id.truthy = true)
    (hsleeps : w.CanSleep (.int 2) (threadIds tweets.length w.twitter).length) :
    let ids := threadIds tweets.length w.twitter
    ∃ w', postAfter size previous position tweets w = (.ok (ids.getLast?.getD previous), w') ∧
      w'.deeds = w.deeds ++ paced (.int 2) (chain (parent previous) tweets ids) ids.length := by
  induction tweets generalizing previous position w with
  | nil => exact ⟨w, rfl, (List.append_nil _).symm⟩
  | cons tweet rest ih =>
      rw [List.length_cons] at hids hsleeps ⊢
      cases hid : postedId w.twitter with
      | error f =>
          obtain ⟨w', hrun, hdeeds⟩ := postAfter_of_failed size previous position tweet rest hid
          rw [threadIds_of_error _ hid]
          refine ⟨w', hrun, ?_⟩
          rw [hdeeds, chain_of_failed]
          rfl
      | ok id =>
          rw [threadIds_of_ok _ hid] at hids hsleeps ⊢
          obtain ⟨w₁, hrhythm, htwitter, hcall, hrun⟩ :=
            postAfter_of_posted size previous position tweet rest hid
          obtain ⟨w₂, hsleep, hothers⟩ := hsleeps.of_rhythm hrhythm
          obtain ⟨htwitter₂, hdeeds₂⟩ := World.of_sleepFor_eq_ok hsleep
          rw [← htwitter, ← htwitter₂] at hids hothers ⊢
          obtain ⟨hgiven, hlater⟩ := List.forall_mem_cons.mp hids
          have hparent : parent id = some id := if_pos hgiven
          obtain ⟨w', hrest, hdeeds⟩ := ih id (position + 1) hlater hothers
          refine ⟨w', (hrun w₂ hsleep).trans (hrest.trans ?_), ?_⟩
          · rw [List.getLast?_cons]
            rfl
          · rw [hdeeds, hdeeds₂, hcall, hparent, chain_of_posted, List.length_cons, paced_cons]
            simp

/-- Tweets are posted as a thread up to the first that fails: the first is in reply to nothing, and
each later one to the id that the answer just before gave. The agent, if nothing keeps it from
sleeping so often, sleeps for two seconds after each success and not after the failure, and the
result is the last id given. -/
theorem thread_chained (tweets : List Json) (w : World) (hclient : w.twitterClientError = none)
    (hids : ∀ id ∈ threadIds tweets.length w.twitter, id.truthy = true)
    (hsleeps : w.CanSleep (.int 2) (threadIds tweets.length w.twitter).length) :
    let ids := threadIds tweets.length w.twitter
    ∃ keys w', postThread (.arr tweets) w = (.ok (ids.getLast?.getD .null), w') ∧
      w'.calls = w.calls ++ chain none tweets ids ∧
      w'.sleeps = w.sleeps ++ List.replicate ids.length (.int 2) ∧
      w'.deeds = w.deeds ++ .twitterClient keys ::
        paced (.int 2) (chain none tweets ids) ids.length ∧
      (∀ i id, ids[i]? = some id → postedId (w.twitter.drop i) = .ok id) ∧
      ids.length ≤ tweets.length ∧
      (ids.length < tweets.length → ∃ f, postedId (w.twitter.drop ids.length) = .error f) := by
  intro ids
  obtain ⟨keys, hkeys⟩ : ∃ keys, Twitter.credentials w = (.ok keys, w) := ⟨_, rfl⟩
  let w₁ := w.record (.twitterClient keys)
  have hconnect : connect w = (.ok (), w₁) :=
    (Act.bind_of_ok hkeys).trans (Twitter.connect_of_none hclient keys)
  have hdeeds₁ : w₁.deeds = w.deeds ++ [.twitterClient keys] := w.deeds_record _
  obtain ⟨w', hrun, hdeeds⟩ : ∃ w', postAfter tweets.length .null 0 tweets w₁ =
      (.ok (ids.getLast?.getD .null), w') ∧
      w'.deeds = w₁.deeds ++ paced (.int 2) (chain none tweets ids) ids.length :=
    postAfter_chained tweets.length .null 0 tweets hids (hsleeps.of_rhythm rfl)
  rw [hdeeds₁, List.append_assoc, List.singleton_append] at hdeeds
  obtain ⟨hgiven, hle, hlast⟩ := threadIds_spec tweets.length w.twitter
  obtain ⟨hcalls, hslept⟩ := World.of_paced (le_length_chain none hle) hdeeds
  exact ⟨keys, w', (Act.bind_of_ok hconnect).trans hrun, hcalls, hslept, hdeeds, hgiven, hle, hlast⟩

/-- A world in which Twitter posts two tweets and then refuses one. -/
def curt : World where
  clock := ⟨0⟩
  draws := ⟨[], 0⟩
  twitter := [.gives (.result (.obj [("id", .str "7")]) .null),
    .gives (.result (.obj [("id", .int 8)]) .null), .gives (.rateLimit "429 Too Many Requests"),
    .gives (.result (.obj [("id", .int 9)]) .null)]

/-- Of four tweets the third fails, and the fourth is not tried. -/
theorem thread_chained_curt :
    curt.twitterClientError = none ∧
    (∀ id ∈ threadIds 4 curt.twitter, id.truthy = true) ∧ curt.CanSleep (.int 2) 2 ∧
    ∃ w', postThread (.arr [.str "a", .str "b", .str "c", .str "d"]) curt = (.ok (.int 8), w') ∧
      w'.calls = [.createTweet (.str "a") none, .createTweet (.str "b") (some (.str "7")),
        .createTweet (.str "c") (some (.int 8))] ∧
      w'.sleeps = [.int 2, .int 2] := by
  have hids : ∀ id ∈ threadIds 4 curt.twitter, id.truthy = true :=
    List.all_eq_true.mp (by decide)
  have hsleeps : curt.CanSleep (.int 2) 2 := ⟨_, rfl, _, rfl, trivial⟩
  obtain ⟨keys, w', hrun, hcalls, hslept, -⟩ :=
    thread_chained [.str "a", .str "b", .str "c", .str "d"] curt rfl hids hsleeps
  exact ⟨rfl, hids, hsleeps, w', hrun, hcalls, hslept⟩

end Persona.Audience
