import Persona.Proofs.Scribe.Headers
import Persona.Proofs.Scribe.Wrapping
import Persona.Proofs.Service.Polling
import Persona.Proofs.Text.Sizes
import Persona.Proofs.World.Recording
import Persona.Scribe.Conversation

/-!
# Sizes of tweets

A tweet has room for 280 characters. The scribe tweets on three ways: the announcement of a
specification is shortened and an answer in a few words is cut. Only the reply that tells of a
specification is not: it goes over the limit together with the title and the address in it.

The notes of a watch tell which questions came up, each with the world in which it did. A tweet of
the watch is too long just when a specification that was asked for had a title and an address
without room.

Main statements: `tweetReply_fits`, `replyTo_announcements`, `tweets_fit_iff`.
-/

namespace Persona.Scribe

open World (Same)

/-! ## Where a publication comes from -/

theorem Spec.KeptAt.unique {spec : Spec} {w : World} {url url' : String} (h : spec.KeptAt w url)
    (h' : spec.KeptAt w url') : url = url' := by
  cases h with
  | pushed hfolder hgit =>
      cases h' with
      | pushed hfolder' _ =>
          cases hfolder.symm.trans hfolder'
          rfl
      | unpushed _ hgit' => cases hgit.symm.trans hgit'
  | unpushed hfolder hgit =>
      cases h' with
      | pushed _ hgit' => cases hgit.symm.trans hgit'
      | unpushed hfolder' _ =>
          cases hfolder.symm.trans hfolder'
          rfl

/-- An announcement says what is announced, and where it is kept. -/
theorem of_announce_eq_ok {s : Scribe} {spec : Spec} {url : String} {p : Publication}
    {w w' : World} (h : s.announce spec url w = (.ok p, w')) : p.spec = spec ∧ p.url = url := by
  obtain ⟨_, w₁, -, h₁⟩ := Act.of_bind_eq_ok h
  obtain ⟨twitter, w₂, -, h₂⟩ := Act.of_bind_eq_ok h₁
  obtain ⟨bluesky, w₃, -, h₃⟩ := Act.of_bind_eq_ok h₂
  obtain ⟨discord, w₄, -, h₄⟩ := Act.of_bind_eq_ok h₃
  cases h₄
  exact ⟨rfl, rfl⟩

/-- What is brought out is the specification, kept where the publication says. -/
theorem of_bringOut_eq_ok {s : Scribe} {spec : Spec} {p : Publication} {w w' : World}
    (h : s.bringOut spec w = (.ok p, w')) : p.spec = spec ∧ spec.KeptAt w p.url := by
  obtain ⟨_, w₁, hprint₁, h₁⟩ := Act.of_bind_eq_ok h
  obtain ⟨_, w₂, hprint₂, h₂⟩ := Act.of_bind_eq_ok h₁
  obtain ⟨joined, w₃, hlook, h₃⟩ := Act.of_bind_eq_ok h₂
  obtain ⟨-, rfl⟩ := Act.of_look_eq_ok hlook
  obtain ⟨_, w₄, hprint₃, h₄⟩ := Act.of_bind_eq_ok h₃
  obtain ⟨_, w₅, hprint₄, h₅⟩ := Act.of_bind_eq_ok h₄
  obtain ⟨url, w₆, hkeep, h₆⟩ := Act.of_bind_eq_ok h₅
  obtain ⟨hspec, hurl⟩ := of_announce_eq_ok h₆
  have hsame : Same World.stage w w₅ :=
    ((Act.print_stage _).of_eq hprint₄).trans <| ((Act.print_stage _).of_eq hprint₃).trans <|
      ((Act.print_stage _).of_eq hprint₂).trans ((Act.print_stage _).of_eq hprint₁)
  rcases keep_kept spec w₅ with ⟨-, url', hurl', hkept⟩ | ⟨-, f, hf⟩
  · rw [hkeep] at hurl'
    cases hurl'
    rw [hurl]
    exact ⟨hspec, hkept.congr hsame.symm⟩
  · rw [hkeep] at hf
    cases hf

/-- What is written is brought out. -/
theorem publish_of_written {s : Scribe} {w : World} {spec : Spec} (h : s.written w = some spec)
    (question : Json) : ∃ w', Same World.stage w w' ∧
      s.publish question w = (s.bringOut spec >>= fun p => pure (some p)) w' := by
  let w₁ := (Act.print "📝 Generating Phi specification..."
    (Act.print ("\n🔮 Oracle received: " ++ question.text ++ "\n") w).2).2
  have hprinted : Same World.stage w w₁ := (Act.print_stage _ _).trans (Act.print_stage _ w)
  obtain ⟨w₂, hwrite, hstage⟩ := s.writeSpec_written question w₁
  have hwritten : s.written w₁ = some spec := h
  rw [hwritten] at hwrite
  exact ⟨w₂, hstage.trans hprinted, Act.bind_of_ok hwrite⟩

/-- A publication is of the specification that was written, kept where it says. -/
theorem of_publish_eq_ok {s : Scribe} {question : Json} {p : Publication} {w w' : World}
    (h : s.publish question w = (.ok (some p), w')) :
    s.written w = some p.spec ∧ s.Publishable w p.spec ∧ p.spec.KeptAt w p.url := by
  obtain ⟨made, -, hpublished⟩ := s.publish_published question w
  rw [h] at hpublished
  cases hpublished with
  | announced hwritten hspec hurl =>
      obtain ⟨w₁, hsame, hpublish⟩ := publish_of_written hwritten question
      rw [h] at hpublish
      obtain ⟨p', w₂, hbring, hpure⟩ := Act.of_bind_eq_ok hpublish.symm
      cases hpure
      obtain ⟨rfl, hkept⟩ := of_bringOut_eq_ok hbring
      exact ⟨hwritten, hspec, hkept.congr hsame.symm⟩

/-! ## Tweets that fit -/

/-- No tweet among some announcements is too long. -/
def FitTwitter (made : List Announcement) : Prop :=
  ∀ text inReplyTo, .tweet text inReplyTo ∈ made → text.Fits 280

theorem fitTwitter_nil : FitTwitter [] := fun _ _ h => absurd h List.not_mem_nil

theorem fitTwitter_append {made more : List Announcement} :
    FitTwitter (made ++ more) ↔ FitTwitter made ∧ FitTwitter more := by
  simp only [FitTwitter, List.mem_append]
  exact ⟨fun h => ⟨fun t i ht => h t i (.inl ht), fun t i ht => h t i (.inr ht)⟩,
    fun h t i ht => ht.elim (h.1 t i) (h.2 t i)⟩

theorem fitTwitter_tweet {text : Json} {inReplyTo : Option Json} :
    FitTwitter [.tweet text inReplyTo] ↔ text.Fits 280 := by
  refine ⟨fun h => h text inReplyTo List.mem_cons_self, fun h t i ht => ?_⟩
  cases List.mem_singleton.mp ht
  exact h

theorem size_shorten_le (text : String) : Text.size (shorten text) ≤ 280 := by
  rw [shorten]
  split
  · have hdots : Text.size "..." = 3 := rfl
    rw [Text.size_take_append, hdots]
    omega
  · omega

/-- What is announced of a specification fits, whatever the model wrote. -/
theorem fitTwitter_announcements (s : Scribe) (spec : Spec) (url : String) (w : World) :
    FitTwitter (s.announcements spec url w) := by
  rw [announcements, fitTwitter_append]
  constructor
  · unfold tweets
    split
    · exact fitTwitter_tweet.mpr (Json.fits_str_iff.mpr (size_shorten_le _))
    · exact fitTwitter_nil
  · unfold posts
    split
    · intro text inReplyTo h
      cases List.mem_singleton.mp h
    · exact fitTwitter_nil

theorem publish_fits (s : Scribe) (question : Json) (w : World) :
    ∃ made, (s.publish question w).2.announcements = w.announcements ++ made ∧
      FitTwitter made := by
  obtain ⟨made, hmade, hpublished⟩ := s.publish_published question w
  refine ⟨made, hmade, ?_⟩
  generalize (s.publish question w).1 = r at hpublished
  cases hpublished with
  | unwritten _ => exact fitTwitter_nil
  | failed _ _ => exact fitTwitter_nil
  | announced _ _ _ => exact fitTwitter_announcements s _ _ w

/-! ## Replies to a tweet -/

/-- A question in a tweet, with the world in which it comes up. -/
structure Asking where
  scribe : Scribe
  question : String
  world : World

/-- If a specification is asked for and published, there is room for its title and its address
beside the words around them. -/
def Asking.HasRoom (a : Asking) : Prop :=
  tweetWantsSpec a.question = true → ∀ spec url, a.scribe.written a.world = some spec →
    a.scribe.Publishable a.world spec → spec.KeptAt a.world url →
      Text.size spec.title.text + Text.size url ≤ 265

/-- The words of the reply take 15 characters. -/
theorem size_published (title url : String) :
    Text.size ("🔮 Published: " ++ title ++ "\n\n" ++ url) =
      Text.size title + Text.size url + 15 := by
  have hfeeds : ∀ d ∈ ("\n\n" ++ url).toList.head?, Text.held? d = none := by
    intro d hd
    rw [String.toList_append] at hd
    obtain rfl : '\n' = d := Option.some.inj hd
    rfl
  have hwords : Text.size "🔮 Published: " = 13 := by decide
  have hgap : Text.size "\n\n" = 2 := by decide
  rw [String.append_assoc, Text.size_append_of_head hfeeds,
    Text.size_append_of_not_mem (by decide), Text.size_append_of_not_mem (by decide), hwords, hgap]
  omega

theorem answerBriefly_announcements (s : Scribe) (question : Json) :
    (s.answerBriefly question).Leads (Same World.announcements) :=
  .ite (.recover (Act.ask_picked (fun _ => rfl) rfl) fun _ => .pure _) (.pure _)

/-- The answer in a few words, cut for a tweet. -/
def cutAnswer (s : Scribe) (question : String) : Act Json := do
  Act.look ((← s.answerBriefly (.str question)).clip 250)

theorem cutAnswer_announcements (s : Scribe) (question : String) :
    (s.cutAnswer question).Leads (Same World.announcements) :=
  .bind (s.answerBriefly_announcements _) fun _ => .look _

theorem fits_of_cutAnswer {s : Scribe} {question : String} {reply : Json} {w w' : World}
    (h : s.cutAnswer question w = (.ok reply, w')) : reply.Fits 280 := by
  obtain ⟨answer, w₁, -, hlook⟩ := Act.of_bind_eq_ok h
  obtain ⟨n, hsize, hle⟩ := Json.fits_of_clip (Act.of_look_eq_ok hlook).1
  exact ⟨n, hsize, by omega⟩

/-- How the text of a reply comes out: it fits just when there is room, and where there is none,
there is a text. -/
def Asking.Replied (a : Asking) : Except Fault Json → Prop
  | .ok reply => reply.Fits 280 ↔ a.HasRoom
  | .error _ => a.HasRoom

theorem Asking.replied_of_cutAnswer {a : Asking} {question : String} {w : World}
    (h : a.HasRoom) : a.Replied (a.scribe.cutAnswer question w).1 := by
  rcases hrun : a.scribe.cutAnswer question w with ⟨r, w'⟩
  cases r with
  | error f => exact h
  | ok reply => exact ⟨fun _ => h, fun _ => fits_of_cutAnswer hrun⟩

/-- The text of the reply after an attempt at a publication. -/
def replyAfter (s : Scribe) (question : String) : Option Publication → Act Json
  | some p => pure (.str ("🔮 Published: " ++ p.spec.title.text ++ "\n\n" ++ p.url))
  | none => s.cutAnswer question

theorem tweetReply_of_wantsSpec (s : Scribe) {question : String}
    (h : tweetWantsSpec question = true) :
    s.tweetReply question = s.publish (.str question) >>= s.replyAfter question := by
  rw [tweetReply, if_pos h]
  refine bind_congr fun result => ?_
  cases result <;> rfl

/-- A reply that tells of a publication fits just when there is room. -/
theorem fits_published_iff {s : Scribe} {question : String} {w w' : World} {p : Publication}
    (hwants : tweetWantsSpec question = true)
    (hrun : s.publish (.str question) w = (.ok (some p), w')) :
    (Json.str ("🔮 Published: " ++ p.spec.title.text ++ "\n\n" ++ p.url)).Fits 280 ↔
      Asking.HasRoom ⟨s, question, w⟩ := by
  obtain ⟨hwritten, hpublishable, hkept⟩ := of_publish_eq_ok hrun
  rw [Json.fits_str_iff, size_published]
  constructor
  · intro hle _ spec url hspec _ hurl
    cases hwritten.symm.trans hspec
    rw [hurl.unique hkept]
    omega
  · intro hroom
    have hle := hroom hwants p.spec p.url hwritten hpublishable hkept
    omega

/-- The tweets made on the way to a reply fit, and the reply fits just when there is room. -/
theorem tweetReply_fits (s : Scribe) (question : String) (w : World) :
    ∃ made, (s.tweetReply question w).2.announcements = w.announcements ++ made ∧
      FitTwitter made ∧ Asking.Replied ⟨s, question, w⟩ (s.tweetReply question w).1 := by
  cases hwants : tweetWantsSpec question with
  | false =>
      have hreply : s.tweetReply question = s.cutAnswer question := by rw [tweetReply, hwants]; rfl
      rw [hreply]
      refine ⟨[], ?_, fitTwitter_nil, Asking.replied_of_cutAnswer fun h => ?_⟩
      · rw [List.append_nil]
        exact s.cutAnswer_announcements question w
      · rw [hwants] at h
        cases h
  | true =>
      obtain ⟨made, hmade, hfits⟩ := s.publish_fits (.str question) w
      obtain ⟨announced, -, hpublished⟩ := s.publish_published (.str question) w
      rcases hrun : s.publish (.str question) w with ⟨r, w₁⟩
      rw [hrun] at hmade hpublished
      rw [s.tweetReply_of_wantsSpec hwants]
      cases hpublished with
      | unwritten h =>
          rw [Act.bind_of_ok hrun]
          refine ⟨made, ?_, hfits, Asking.replied_of_cutAnswer fun _ spec url hspec => ?_⟩
          · rw [← hmade]
            exact s.cutAnswer_announcements question w₁
          · cases h.symm.trans hspec
      | failed h hspec f =>
          rw [Act.bind_of_error hrun]
          refine ⟨made, hmade, hfits, fun _ spec url hspec' hpublishable => ?_⟩
          cases h.symm.trans hspec'
          exact absurd hpublishable hspec
      | announced h hspec hurl p =>
          rw [Act.bind_of_ok hrun]
          exact ⟨made, hmade, hfits, fits_published_iff hwants hrun⟩

/-- Reply to a question in a tweet. -/
def replyTo (s : Scribe) (question : String) (id : Json) : Act Unit := do
  let reply ← s.tweetReply question
  discard (Act.twitter (.createTweet reply (some id)))
  Act.print ("✅ Replied to " ++ id.text)

theorem createTweet_announcements (text : Json) (inReplyTo : Option Json) (w : World) :
    (Act.twitter (.createTweet text inReplyTo) w).2.announcements =
      w.announcements ++ [.tweet text inReplyTo] := by
  have hrecord : (w.record (.twitter (.createTweet text inReplyTo))).announcements =
      w.announcements ++ [.tweet text inReplyTo] := World.announcements_record w _
  rw [Act.twitter_apply]
  split <;> exact hrecord

/-- All tweets of a reply fit just when there is room. -/
theorem replyTo_announcements (s : Scribe) (question : String) (id : Json) (w : World) :
    ∃ made, (s.replyTo question id w).2.announcements = w.announcements ++ made ∧
      (FitTwitter made ↔ Asking.HasRoom ⟨s, question, w⟩) := by
  obtain ⟨made, hmade, hfits, hreplied⟩ := s.tweetReply_fits question w
  rcases hrun : s.tweetReply question w with ⟨r, w₁⟩
  rw [hrun] at hmade hreplied
  unfold replyTo
  cases r with
  | error f =>
      rw [Act.bind_of_error hrun]
      exact ⟨made, hmade, fun _ => hreplied, fun _ => hfits⟩
  | ok reply =>
      rw [Act.bind_of_ok hrun]
      refine ⟨made ++ [.tweet reply (some id)], ?_, ?_⟩
      · have htweeted := createTweet_announcements reply (some id) w₁
        rw [hmade, List.append_assoc] at htweeted
        refine Eq.trans (Act.Leads.bind_from (R := Same World.announcements)
          (fun _ => Act.print_announcements _) w₁) ?_
        exact Eq.trans (Act.Leads.bind_from (R := Same World.announcements) (fun _ => .pure _) w₁)
          htweeted
      · rw [fitTwitter_append, fitTwitter_tweet]
        exact ⟨fun h => hreplied.mp h.2, fun h => ⟨hfits, hreplied.mpr h⟩⟩

/-! ## The watch -/

/-- Reply to a question in a tweet, with a note of it. -/
def replyAsking (s : Scribe) (question : String) (id : Json) :
    ActOn (Option Int × List Asking) Unit := do
  ActOn.note fun _ w => ⟨s, question, w⟩
  (s.replyTo question id : Act Unit)

/-- Take a tweet, with a note of the question in it. -/
def takeAsking (s : Scribe) (tweet : Json) : ActOn (Option Int × List Asking) Unit := do
  let id ← (Act.look (Twitter.attr tweet "id") : Act Json)
  let number ← (MonadExcept.ofExcept (Twitter.number id) : Act Int)
  ActOn.silent (modify fun (last : Option Int) => some (max (last.getD 0) number))
  let text ← (Act.look (Twitter.attr tweet "text") : Act Json)
  let question := tweetQuestion (← (Act.look (Twitter.searchable text) : Act String))
  unless question.isEmpty do
    (Act.print ("📨 Question from Twitter: " ++ question) : Act Unit)
    s.replyAsking question id

/-- Take the tweets of an answer, with notes. -/
def walkAsking (s : Scribe) (data : Json) : ActOn (Option Int × List Asking) Unit := do
  if data.truthy then
    (← (Act.look data.items : Act (List Json))).forM s.takeAsking

/-- One look at the mentions, with notes. -/
def pollAsking (s : Scribe) : ActOn (Option Int × List Asking) Unit :=
  recover
    (do
      let last : Option Int ← ActOn.silent get
      let data ← (Twitter.mentionsSince last ["text", "author_id", "conversation_id"] : Act Json)
      s.walkAsking data
      (Act.sleep (.whole 60) : Act Unit))
    fun f => do
      (Act.print ("❌ Twitter poll error: " ++ f.message) : Act Unit)
      (Act.sleep (.whole 120) : Act Unit)

/-- The watch over the mentions, with notes of the questions that come up. -/
def watchAsking : ActOn (List Asking) Unit := do
  if ← (Act.isInstalled "tweepy" : Act Bool) then
    let s ← (create : Act Scribe)
    if s.hasTwitter then
      (Act.print "🐦 Twitter Oracle starting..." : Act Unit)
      let rounds ← (Act.sleepsLeft : Act Nat)
      discard ((s.pollAsking.forever rounds).noting none)
    else (Act.print "❌ Twitter not configured" : Act Unit)
  else (Act.print "❌ tweepy not installed" : Act Unit)

theorem noted_takeAsking (s : Scribe) (tweet : Json) :
    ActOn.Noted (s.takeAsking tweet) (s.takeTweet tweet) := by
  unfold takeAsking takeTweet
  refine .bind (.lift _) fun id => .bind (.lift _) fun number => .bind (.silent _) fun _ => ?_
  refine .bind (.lift _) fun text => .bind (.lift _) fun searched => ?_
  dsimp only
  split
  · exact .pure _
  · refine .bind (.lift _) fun _ => .note_bind ?_ _
    unfold replyTo
    rw [ActOn.lift_bind]
    refine .bind (.lift _) fun reply => ?_
    rw [ActOn.lift_bind, ActOn.lift_discard]
    exact .bind (.bind (.lift _) fun _ => .pure _) fun _ => .lift _

theorem noted_pollAsking (s : Scribe) : ActOn.Noted s.pollAsking s.poll := by
  unfold pollAsking poll
  refine .recover ?_ fun f => .bind (.lift _) fun _ => .lift _
  refine .bind (.silent _) fun last => .bind (.lift _) fun data => ?_
  unfold walkAsking
  cases data.truthy with
  | false => exact .lift _
  | true =>
      rw [if_pos rfl, bind_assoc]
      exact .bind (.lift _) fun tweets => .bind (.forM s.noted_takeAsking tweets) fun _ => .lift _

theorem noted_watchAsking : Act.Noted watchAsking watchTwitter := by
  unfold watchAsking watchTwitter
  refine .bind (.lift _) fun installed => ?_
  cases installed with
  | false => exact .lift _
  | true =>
      refine .bind (.lift _) fun s => ?_
      split
      · refine .bind (.lift _) fun _ => .bind (.lift _) fun rounds => ?_
        exact .bind (.noting (s.noted_pollAsking.forever rounds) none) fun _ => .pure _
      · exact .lift _

/-- Since a world, the tweets that were made tell whether there was room at each question. -/
def Tells (start : World) (notes : List Asking) (w : World) : Prop :=
  ∃ made, w.announcements = start.announcements ++ made ∧
    (FitTwitter made ↔ ∀ a ∈ notes, a.HasRoom)

namespace Tells

variable {start w w' : World} {notes : List Asking}

theorem refl (start : World) : Tells start [] start :=
  ⟨[], (List.append_nil _).symm, fun _ _ h => absurd h List.not_mem_nil, fun _ => fitTwitter_nil⟩

theorem congr (h : Same World.announcements w w') (htells : Tells start notes w) :
    Tells start notes w' := by
  obtain ⟨made, hmade, hfits⟩ := htells
  exact ⟨made, Eq.trans h hmade, hfits⟩

theorem add (htells : Tells start notes w) {a : Asking} {made : List Announcement}
    (hmade : w'.announcements = w.announcements ++ made) (hfits : FitTwitter made ↔ a.HasRoom) :
    Tells start (notes ++ [a]) w' := by
  obtain ⟨before, hbefore, hfitsBefore⟩ := htells
  refine ⟨before ++ made, ?_, ?_⟩
  · rw [hmade, hbefore, List.append_assoc]
  · rw [fitTwitter_append, hfitsBefore, hfits, List.forall_mem_append, List.forall_mem_singleton]

end Tells

/-- An activity without announcements keeps what they tell. -/
theorem lift_tells {σ α : Type} {start : World} {notes : σ → List Asking} {x : Act α}
    (hx : x.Leads (Same World.announcements)) :
    ActOn.Preserves (fun s w => Tells start (notes s) w) (liftM x) :=
  .lift (R := Same World.announcements) (fun _ _ _ h hs => hs.congr h) hx

theorem silent_tells {σ α : Type} {start : World} {x : ActOn σ α}
    (hx : x.Leads (Same World.announcements)) :
    ActOn.Preserves (fun s w => Tells start s.2 w) (ActOn.silent x) :=
  .silent (R := Same World.announcements) (fun _ _ _ h hs => hs.congr h) hx

/-- A question is noted, and what the reply to it makes is what its note tells. -/
theorem replyAsking_tells (start : World) (s : Scribe) (question : String) (id : Json) :
    ActOn.Preserves (fun st w => Tells start st.2 w) (s.replyAsking question id) := by
  refine .note_lift fun _ notes w h => ?_
  obtain ⟨made, hmade, hfits⟩ := s.replyTo_announcements question id w
  exact h.add hmade hfits

theorem takeAsking_tells (start : World) (s : Scribe) (tweet : Json) :
    ActOn.Preserves (fun st w => Tells start st.2 w) (s.takeAsking tweet) := by
  unfold takeAsking
  refine .bind (lift_tells (.look _)) fun id => .bind (lift_tells (.ofExcept _)) fun number => ?_
  refine .bind (silent_tells (.modify _)) fun _ => .bind (lift_tells (.look _)) fun text => ?_
  refine .bind (lift_tells (.look _)) fun searched => ?_
  -- The question is computed from the text; unless it is hidden, the split below evaluates it.
  generalize tweetQuestion searched = question
  dsimp only
  split
  · exact .pure _
  · exact .bind (lift_tells (Act.print_announcements _)) fun _ =>
      replyAsking_tells start s question id

theorem sleep_announcements (seconds : Quantity) :
    (Act.sleep seconds).Leads (Same World.announcements) :=
  Act.sleepFor_picked (fun _ => rfl) rfl

theorem mentionsSince_announcements (last : Option Int) (fields : List String) :
    (Twitter.mentionsSince last fields).Leads (Same World.announcements) :=
  .bind (fun _ => rfl) fun _ => .bind (Act.twitter_picked (fun _ => rfl) rfl) fun _ => .pure _

/-- One look at the mentions keeps what the tweets tell. -/
theorem pollAsking_tells (start : World) (s : Scribe) :
    ActOn.Preserves (fun st w => Tells start st.2 w) s.pollAsking := by
  unfold pollAsking
  refine .recover ?_ fun f => .bind (lift_tells (Act.print_announcements _)) fun _ =>
    lift_tells (sleep_announcements _)
  have hwalk (data : Json) :
      ActOn.Preserves (fun st w => Tells start st.2 w) (s.walkAsking data) := by
    unfold walkAsking
    cases data.truthy with
    | false => exact .pure _
    | true =>
        exact .bind (lift_tells (.look _)) fun tweets => .forM (takeAsking_tells start s) tweets
  exact .bind (silent_tells .get) fun last =>
    .bind (lift_tells (mentionsSince_announcements last _)) fun data =>
      .bind (hwalk data) fun _ => lift_tells (sleep_announcements _)

theorem create_announcements : create.Leads (Same World.announcements) := by
  have hcredentials : Twitter.credentials.Leads (Same World.announcements) :=
    .bind (fun _ => rfl) fun _ => .bind (fun _ => rfl) fun _ => .bind (fun _ => rfl) fun _ =>
      .bind (fun _ => rfl) fun _ => .pure _
  have hclient (credentials : Twitter.Credentials) :
      (Twitter.connect credentials).Leads (Same World.announcements) := by
    refine .bind (Act.record_picked (fun _ => rfl) rfl) fun _ => .bind (fun _ => rfl) fun w => ?_
    split
    · exact .throw _
    · exact .pure _
  have hconnect : connect.Leads (Same World.announcements) :=
    .bind (fun _ => rfl) fun _ => .ite (.bind hcredentials fun credentials =>
      .tryCatch (.bind (hclient credentials) fun _ => .pure _) fun _ => .pure _) (.pure _)
  exact .bind (fun _ => rfl) fun _ => .bind (fun _ => rfl) fun _ => .bind hconnect fun _ =>
    .bind (fun _ => rfl) fun _ => .bind (fun _ => rfl) fun _ => .pure _

theorem watchAsking_tells (start : World) :
    ActOn.Preserves (fun notes w => Tells start notes w) watchAsking := by
  unfold watchAsking
  refine .bind (lift_tells (fun _ => rfl)) fun installed => ?_
  have hprint (text : String) :
      ActOn.Preserves (fun notes w => Tells start notes w) (liftM (Act.print text)) :=
    lift_tells (Act.print_announcements text)
  cases installed with
  | false => exact hprint _
  | true =>
      refine .bind (lift_tells create_announcements) fun s => ?_
      split
      · refine .bind (hprint _) fun _ => .bind (lift_tells (fun _ => rfl)) fun rounds => ?_
        exact .bind (.noting ((pollAsking_tells start s).forever rounds) none) fun _ => .pure _
      · exact hprint _

/-- The tweets of a watch tell whether there was room at each question that came up in it. -/
theorem watchTwitter_tells (w : World) : Tells w (watchAsking.notes w) (watchTwitter w).2 := by
  rw [← noted_watchAsking.forget_eq]
  exact (watchAsking_tells w).apply (.refl w)

/-- Announcements always fit, and all tweets of a watch do so just when there was room for the
title and the address of each specification that a reply told of. The notes are those of the watch
itself. -/
theorem tweets_fit_iff (w : World) :
    (∀ (s : Scribe) (question : Json), ∃ made,
      (s.publish question w).2.announcements = w.announcements ++ made ∧ FitTwitter made) ∧
    watchAsking.forget = watchTwitter ∧
    ∃ made, (watchTwitter w).2.announcements = w.announcements ++ made ∧
      (FitTwitter made ↔ ∀ a ∈ watchAsking.notes w, a.HasRoom) :=
  ⟨fun s question => s.publish_fits question w, noted_watchAsking.forget_eq, watchTwitter_tells w⟩

/-! ## The first mention -/

section

variable {id text : String} {number : Int} (hnumber : Twitter.number (.str id) = .ok number)
  (hasked : (tweetQuestion text).isEmpty = false)

include hnumber hasked

/-- The question in a tweet is noted. -/
theorem hasNote_takeAsking (s : Scribe) (last : Option Int) (notes : List Asking) (w : World) :
    (s.takeAsking (Twitter.tweet id text)).HasNote
      ⟨s, tweetQuestion text,
        (Act.print ("📨 Question from Twitter: " ++ tweetQuestion text) w).2⟩ (last, notes) w := by
  have hid : Act.look (Twitter.attr (Twitter.tweet id text) "id") w = (.ok (.str id), w) := rfl
  have hnumber' : (MonadExcept.ofExcept (Twitter.number (.str id)) : Act Int) w =
      (.ok number, w) := by
    rw [hnumber]
    rfl
  have htext : Act.look (Twitter.attr (Twitter.tweet id text) "text") w = (.ok (.str text), w) :=
    rfl
  have hsearched : Act.look (Twitter.searchable (.str text)) w = (.ok text, w) := rfl
  unfold takeAsking
  refine .step (ActOn.lift_of_eq hid) (.step (ActOn.lift_of_eq hnumber') ?_)
  refine .step (ActOn.silent_apply _ last notes w) (.step (ActOn.lift_of_eq htext) ?_)
  refine .step (ActOn.lift_of_eq hsearched) ?_
  generalize tweetQuestion text = question at hasked ⊢
  dsimp only
  rw [hasked, if_neg Bool.false_ne_true]
  exact .step (ActOn.lift_of_eq (Act.print_apply _ w)) (.note_bind _ (.lift _) _ notes _)

/-- The question in the first tweet of an answer is noted. -/
theorem hasNote_walkAsking (s : Scribe) (last : Option Int) (notes : List Asking) (w : World)
    (rest : List Json) :
    (s.walkAsking (.arr (Twitter.tweet id text :: rest))).HasNote
      ⟨s, tweetQuestion text,
        (Act.print ("📨 Question from Twitter: " ++ tweetQuestion text) w).2⟩ (last, notes) w := by
  have hitems : Act.look (Json.arr (Twitter.tweet id text :: rest)).items w =
      (.ok (Twitter.tweet id text :: rest), w) := rfl
  have hsome : (Json.arr (Twitter.tweet id text :: rest)).truthy = true := rfl
  rw [walkAsking, if_pos hsome]
  refine .step (ActOn.lift_of_eq hitems) ?_
  exact (hasNote_takeAsking hnumber hasked s last notes w).bind fun _ =>
    .forM s.noted_takeAsking rest

theorem hasNote_pollAsking (s : Scribe) (last : Option Int) (notes : List Asking) {w w₁ : World}
    {rest : List Json}
    (hanswer : Twitter.mentionsSince last ["text", "author_id", "conversation_id"] w =
      (.ok (.arr (Twitter.tweet id text :: rest)), w₁)) :
    s.pollAsking.HasNote
      ⟨s, tweetQuestion text,
        (Act.print ("📨 Question from Twitter: " ++ tweetQuestion text) w₁).2⟩ (last, notes) w := by
  have hwalk := hasNote_walkAsking hnumber hasked s last notes w₁ rest
  unfold pollAsking
  -- Whatever happens after the note was taken, a fault included, it stays.
  refine .recover ?_ fun f => .bind (.lift _) fun _ => .lift _
  refine .step (ActOn.silent_apply _ last notes w) (.step (ActOn.lift_of_eq hanswer) ?_)
  exact hwalk.bind fun _ => .lift _

/-- And so is the question in the first mention of a watch. -/
theorem mem_notes_watchAsking {s : Scribe} {w w₁ w₂ : World} {rest : List Json}
    (hinstalled : Act.isInstalled "tweepy" w = (.ok true, w)) (hcreate : create w = (.ok s, w₁))
    (htwitter : s.hasTwitter = true)
    (hanswer : Twitter.mentionsSince none ["text", "author_id", "conversation_id"]
      (Act.print "🐦 Twitter Oracle starting..." w₁).2 =
        (.ok (.arr (Twitter.tweet id text :: rest)), w₂)) :
    ⟨s, tweetQuestion text,
      (Act.print ("📨 Question from Twitter: " ++ tweetQuestion text) w₂).2⟩ ∈
        watchAsking.notes w := by
  have hpoll := hasNote_pollAsking hnumber hasked s none [] hanswer
  have hprint : Act.print "🐦 Twitter Oracle starting..." w₁ =
      (.ok (), (Act.print "🐦 Twitter Oracle starting..." w₁).2) := rfl
  have hrounds : Act.sleepsLeft (Act.print "🐦 Twitter Oracle starting..." w₁).2 =
      (.ok ((w₁.limits.sleeps - w₁.slept).toNat + 1),
        (Act.print "🐦 Twitter Oracle starting..." w₁).2) := rfl
  have hwatch : watchAsking [] w =
      discard ((s.pollAsking.forever ((w₁.limits.sleeps - w₁.slept).toNat + 1)).noting none) []
        (Act.print "🐦 Twitter Oracle starting..." w₁).2 := by
    rw [watchAsking, ActOn.bind_lift_of_ok hinstalled, if_pos rfl, ActOn.bind_lift_of_ok hcreate,
      if_pos htwitter, ActOn.bind_lift_of_ok hprint, ActOn.bind_lift_of_ok hrounds]
  rw [ActOn.notes, hwatch]
  change _ ∈ (discard _ : ActOn (List Asking) PUnit).notes _
  rw [ActOn.notes_discard_noting]
  exact hpoll.forever s.noted_pollAsking _

end

/-! ## A long title -/

/-- The identity function, with a title of so many letters. -/
def wordyDraft (n : Nat) : Draft :=
  { identityDraft "id x = x" with title := String.ofList (List.replicate n 'x') }

/-- What the model answers with it. -/
def wordyReply (n : Nat) : Json := .str (Json.obj (wordyDraft n).fields).encode

theorem mark_notMem_title (n : Nat) : Text.mark ∉ (wordyDraft n).title.toList := by
  change Text.mark ∉ (String.ofList (List.replicate n 'x')).toList
  rw [String.toList_ofList]
  intro h
  exact absurd (List.eq_of_mem_replicate h) (by decide)

theorem size_title (n : Nat) : Text.size (wordyDraft n).title = n := by
  rw [Text.size_of_not_mem (mark_notMem_title n)]
  change (String.ofList (List.replicate n 'x')).toList.length = n
  rw [String.toList_ofList, List.length_replicate]

theorem sound_wordyDraft (n : Nat) : (wordyDraft n).Sound := by
  have hrest := @sound_identityDraft "id x = x" (by decide)
  intro s hs
  rcases List.mem_cons.mp hs with rfl | hs
  · exact hrest _ List.mem_cons_self
  · rcases List.mem_cons.mp hs with rfl | hs
    · exact Text.sound_of_not_mem_mark (mark_notMem_title n)
    · exact hrest s (List.mem_cons_of_mem _ (List.mem_cons_of_mem _ hs))

theorem notMem_quoted {c : Char} {s : String} (hc : c ≠ '"')
    (h : ∀ p ∈ Text.points s, c ∉ Json.escapePoint p) : c ∉ Json.quoted s := by
  simp only [Json.quoted, List.mem_cons, List.mem_append, List.mem_flatMap, List.not_mem_nil,
    or_false, not_or, not_exists, not_and]
  exact ⟨⟨hc, h⟩, hc⟩

theorem contains_wordyReply (n : Nat) :
    Text.contains (Json.obj (wordyDraft n).fields).encode "```" = false := by
  have htitle : '`' ∉ Json.quoted (wordyDraft n).title := by
    refine notMem_quoted (by decide) fun p hp => ?_
    rw [Text.points, Text.pointsOf_of_not_mem (mark_notMem_title n)] at hp
    obtain ⟨c, hc, rfl⟩ := List.mem_map.mp hp
    change c ∈ (String.ofList (List.replicate n 'x')).toList at hc
    rw [String.toList_ofList] at hc
    rw [List.eq_of_mem_replicate hc]
    decide
  have hnone : '`' ∉ (Json.obj (wordyDraft n).fields).encode.toList := by
    rw [Json.encode, String.toList_ofList]
    simp only [Draft.fields, wordyDraft, identityDraft, Json.chars, Json.fieldChars,
      List.mem_append, List.mem_cons, not_or]
    exact ⟨by decide, ⟨by decide, htitle⟩, by decide⟩
  have hcut := Text.cut?_append_of_not_mem hnone ['`', '`'] []
  rw [List.append_nil] at hcut
  rw [Text.contains]
  change (Text.cut? ['`', '`', '`'] _).isSome = false
  rw [hcut]
  rfl

section

variable {s : Scribe} {w : World} {n : Nat}

theorem written_wordy {rest : List (Scripted (Option Json))} (hs : s.hasModel = true)
    (hmodel : w.model = .gives (some (wordyReply n)) :: rest) :
    s.written w = some (wordyDraft n).spec := by
  have hsound := sound_wordyDraft n
  have hreply : Spec.ofReply (wordyReply n) = .ok (wordyDraft n).spec :=
    Draft.ofReply_of_not_contains hsound (Draft.encoding_encode hsound) (contains_wordyReply n)
  rw [written, hs, hmodel]
  change (Spec.ofReply (wordyReply n)).toOption = _
  rw [hreply]
  rfl

/-- What a specification is kept by, where nothing was kept before. -/
structure Fresh (w : World) : Prop where
  clock : w.clock = ⟨0⟩
  home : Fields.get? w.environment "HOME" = none
  files : w.files = {}
  system : w.system = {}
  pushes : verdict 3 w.commands = .done

/-- Another title adds no other characters to the captions. -/
theorem mem_captions_titledIdentity {title : String} {date : Date} {highlights : List Json}
    {c : Char} (h : c ∈ (titledIdentity title).captions date highlights) :
    c ∈ title.toList ∨ c ∈ identity.captions date highlights := by
  have htext : (titledIdentity title).title.text = title := rfl
  have hsummary : (titledIdentity title).summary = identity.summary := rfl
  simp only [Spec.captions, htext, hsummary, List.mem_append] at h ⊢
  tauto

theorem shelved_wordy (h : Fresh w) (n : Nat) :
    ∃ folder text files, (wordyDraft n).spec.Shelved w folder text files := by
  obtain ⟨folder, text, tree, hplaced⟩ := placed_titledIdentity (wordyDraft n).title []
  obtain ⟨highlights, content, hitems, hcontent, htext⟩ := fileText_eq_ok hplaced.composed
  have hencodable : Text.halves? text = none := by
    cases hitems
    cases hcontent
    rw [htext]
    refine Text.halves?_of_not_mem ?_
    have hrest : Text.mark ∉ identity.captions (identityWorld []).clock.date [.str "total"] ∧
        Text.mark ∉ ("\n" : String).toList ∧ Text.mark ∉ ("id x = x" : String).toList := by
      decide +kernel
    simp only [String.toList_append, String.toList_ofList, List.mem_append, not_or]
    refine ⟨⟨fun hmark => ?_, hrest.2.1⟩, hrest.2.2⟩
    exact (mem_captions_titledIdentity hmark).elim (mark_notMem_title n) hrest.1
  obtain ⟨files, hshelved⟩ : ∃ files, (titledIdentity (wordyDraft n).title).Shelved
      (identityWorld []) folder text files := ⟨_, hplaced.shelved hencodable⟩
  have hshelf : shelfOf w = shelfOf (identityWorld []) := by
    rw [shelfOf, h.home]
    rfl
  refine ⟨folder, text, files, hshelved.sorted, ?_, hencodable, ?_⟩
  · rw [h.clock]
    exact hshelved.composed
  · rw [Spec.fileIn, hshelf, h.files]
    exact hshelved.room

theorem publishable_wordy (h : Fresh w) (s : Scribe) (n : Nat) :
    s.Publishable w (wordyDraft n).spec where
  listed := ⟨["total"], rfl⟩
  sliced _ _ := nofun
  keepable :=
    ⟨shelved_wordy h n, fun _ _ _ _ => by rw [h.system], by rw [h.pushes]; exact nofun⟩

theorem keptAt_wordy (h : Fresh w) (n : Nat) :
    (wordyDraft n).spec.KeptAt w ((wordyDraft n).spec.address "examples/meta") :=
  .pushed rfl h.pushes

theorem not_hasRoom_wordy {rest : List (Scripted (Option Json))} {question : String}
    (hquestion : tweetWantsSpec question = true) (hs : s.hasModel = true)
    (hmodel : w.model = .gives (some (wordyReply n)) :: rest) (h : Fresh w) (hn : 265 < n) :
    ¬Asking.HasRoom ⟨s, question, w⟩ := by
  intro hroom
  have hle := hroom hquestion _ _ (written_wordy hs hmodel) (publishable_wordy h s n)
    (keptAt_wordy h n)
  have htitle : Text.size (wordyDraft n).spec.title.text = n := size_title n
  omega

end

/-- A question comes up, and the model writes a long title. -/
def wordyWorld (n : Nat) : World where
  clock := ⟨0⟩
  draws := ⟨[], 0⟩
  environment := [("ANTHROPIC_API_KEY", "sk")]
  model := [.gives (some (wordyReply n))]
  commands := List.replicate 3 (.gives (.exited 0 .null .null))
  twitter := [.gives (.result (.arr [Twitter.tweet "1" "@phi create the identity"]) .null)]
  limits := { sleeps := 1 }

theorem noted_wordyWorld (n : Nat) :
    ∃ w, Fresh w ∧ w.model = [.gives (some (wordyReply n))] ∧
      ⟨⟨true, true, none, none⟩, "create the identity", w⟩ ∈ watchAsking.notes (wordyWorld n) := by
  have hnumber : Twitter.number (.str "1") = .ok 1 := rfl
  have hquestion : tweetQuestion "@phi create the identity" = "create the identity" := by
    decide +kernel
  have hasked : (tweetQuestion "@phi create the identity").isEmpty = false := by
    rw [hquestion]
    rfl
  have hcreate : create (wordyWorld n) =
      (.ok ⟨true, true, none, none⟩, (create (wordyWorld n)).2) :=
    rfl
  have hnoted := mem_notes_watchAsking hnumber hasked rfl hcreate rfl rfl
  rw [hquestion] at hnoted
  exact ⟨_, ⟨rfl, rfl, rfl, rfl, rfl⟩, rfl, hnoted⟩

theorem wordyWorld_not_fitTwitter {n : Nat} (hn : 265 < n) :
    ¬FitTwitter (watchTwitter (wordyWorld n)).2.announcements := by
  obtain ⟨made, hmade, hfits⟩ := watchTwitter_tells (wordyWorld n)
  have hnone : (wordyWorld n).announcements = [] := rfl
  obtain ⟨w, hfresh, hmodel, hnoted⟩ := noted_wordyWorld n
  rw [hmade, hnone, List.nil_append, hfits]
  intro hroom
  exact not_hasRoom_wordy (by decide +kernel) rfl hmodel hfresh hn (hroom _ hnoted)

/-- The reply with a title of 300 letters is too long. -/
theorem long_title_tweeted : ¬FitTwitter (watchTwitter (wordyWorld 300)).2.announcements :=
  wordyWorld_not_fitTwitter (by decide)

end Persona.Scribe
