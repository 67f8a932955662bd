import Persona.Proofs.Service.Polling
import Persona.Scribe.Conversation

/-!
# Mentions that are passed over

The scribe walks over the mentions of an answer from the newest to the oldest. The first step of
the walk moves the cursor past all of them, so those that a failure keeps the walk from are not
asked for again.

Main statement: `none_skipped_iff_walks_end`.
-/

namespace Persona.Twitter

open Mention (numberOf isAbove newestFirst)

/-! ## Walks from the newest to the oldest -/

def Note.data? (n : Note) : Option Json :=
  match n.step with
  | .answered _ data => some data
  | _ => none

/-- What the service answered. -/
def answers (notes : List Note) : List Json := notes.filterMap Note.data?

/-- Each walk has come to the oldest tweet of the answer. -/
def WalksEnd (notes : List Note) : Prop :=
  ∀ data ∈ answers notes, ∀ x, (listed data).getLast? = some x → x ∈ taken notes

/-- Of some tweets, those at or below the cursor have been taken. -/
def Settled (tweets : List Json) (cursor : Option Int) (notes : List Note) : Prop :=
  ∀ x ∈ tweets, isAbove cursor x = false → x ∈ taken notes

/-- What polls that walk from the newest to the oldest keep. -/
structure Passing (timeline : Nat → List Json) (cursor : Option Int) (notes : List Note) :
    Prop where
  bounded : ∀ x ∈ taken notes, isAbove cursor x = false
  /-- The cursor has passed all tweets that an answer listed. -/
  listed_passed : ∀ data ∈ answers notes, ∀ x ∈ listed data, isAbove cursor x = false
  monotone : AtPolls (fun c _ => ∀ x, isAbove c x = false → isAbove cursor x = false) notes
  complete_iff : Complete timeline cursor notes ↔ WalksEnd notes
  noneSkipped_iff : NoneSkipped timeline notes ↔ AtPolls (fun _ => WalksEnd) notes
  settled : AtPolls (Settled (taken notes)) notes

variable {timeline : Nat → List Json} {cursor : Option Int} {notes : List Note}

theorem isAbove_passed {x y : Json} (hy : Numbered y) :
    isAbove (passed cursor y) x = false ↔
      isAbove cursor x = false ∨ numberOf x ≤ numberOf y := by
  obtain ⟨-, -, -, hpos⟩ := hy
  have hmax : ∀ n, numberOf x ≤ max n (numberOf y) ↔
      numberOf x ≤ n ∨ numberOf x ≤ numberOf y := by
    intro n
    rw [Int.max_def]
    split <;> omega
  cases cursor with
  | none =>
      simp only [passed, isAbove, Option.getD_none, decide_eq_false_iff_not, Int.not_lt, hmax,
        Bool.true_eq_false, false_or]
      omega
  | some n =>
      simp only [passed, isAbove, Option.getD_some, decide_eq_false_iff_not, Int.not_lt, hmax]

theorem isAbove_walkEnd {x : Json} {reached : List Json} (h : ∀ y ∈ reached, Numbered y) :
    isAbove (walkEnd cursor reached) x = false ↔
      isAbove cursor x = false ∨ ∃ y ∈ reached, numberOf x ≤ numberOf y := by
  induction reached generalizing cursor with
  | nil => simp [walkEnd]
  | cons z reached ih =>
      change isAbove (walkEnd (passed cursor z) reached) x = false ↔ _
      rw [ih fun y hy => h y (List.mem_cons_of_mem z hy), isAbove_passed (h z List.mem_cons_self),
        List.exists_mem_cons_iff, or_assoc]

theorem Passing.start (timeline : Nat → List Json) : Passing timeline none [] where
  bounded x hx := by cases hx
  listed_passed data hdata := by cases hdata
  monotone j c hj := by cases hj
  complete_iff := ⟨fun _ _ hn => (nomatch hn), fun _ _ _ _ hx => (nomatch hx)⟩
  noneSkipped_iff := ⟨fun _ _ _ hj => (nomatch hj), fun _ _ _ hj => (nomatch hj)⟩
  settled j c hj := by cases hj

/-! ### One walk -/

/-- A walk over the tweets of an answer comes to some of them, at least to the newest. -/
structure Walk (timeline : Nat → List Json) (cursor : Option Int) (time : Nat) (data : Json)
    (reached rest : List Json) : Prop where
  lists : Mention.TwitterInbox.Lists (newestFirst (timeline time) cursor) data
  batch : newestFirst (timeline time) cursor = reached ++ rest
  first : reached = [] → rest = []

namespace Walk

variable {time : Nat} {data : Json} {reached rest : List Json}

theorem mem (h : Walk timeline cursor time data reached rest) {x : Json} :
    x ∈ reached ++ rest ↔ x ∈ timeline time ∧ isAbove cursor x = true := by
  rw [← h.batch, mem_newestFirst]

theorem of_reached (h : Walk timeline cursor time data reached rest) {x : Json} (hx : x ∈ reached) :
    x ∈ timeline time ∧ isAbove cursor x = true :=
  h.mem.mp (List.mem_append_left rest hx)

theorem decreasing (hfeed : Feed timeline) (h : Walk timeline cursor time data reached rest) :
    (reached ++ rest).Pairwise fun a b => numberOf b < numberOf a := by
  rw [← h.batch, newestFirst, List.pairwise_reverse]
  exact (hfeed.increasing time).filter _

/-- What the walk did not come to lies below what it came to. -/
theorem exists_above (hfeed : Feed timeline) (h : Walk timeline cursor time data reached rest)
    {x : Json} (hx : x ∈ reached ++ rest) : ∃ y ∈ reached, numberOf x ≤ numberOf y := by
  rcases List.mem_append.mp hx with hreached | hrest
  · exact ⟨x, hreached, Int.le_refl _⟩
  · cases reached with
    | nil => rw [h.first rfl] at hrest; cases hrest
    | cons y ys =>
        have hless := (List.pairwise_append.mp (h.decreasing hfeed)).2.2 y List.mem_cons_self x
          hrest
        exact ⟨y, List.mem_cons_self, Int.le_of_lt hless⟩

theorem not_reached_of_rest (hfeed : Feed timeline)
    (h : Walk timeline cursor time data reached rest) {x : Json} (hx : x ∈ rest) :
    x ∉ reached := by
  intro hreached
  have hless := (List.pairwise_append.mp (h.decreasing hfeed)).2.2 x hreached x hx
  omega

/-- Where the cursor is after a walk. -/
theorem isAbove_end (hfeed : Feed timeline) (h : Walk timeline cursor time data reached rest)
    {x : Json} : isAbove (walkEnd cursor reached) x = false ↔
      isAbove cursor x = false ∨ ∃ y ∈ reached, numberOf x ≤ numberOf y :=
  isAbove_walkEnd fun y hy => hfeed.numbered time y (h.of_reached hy).1

end Walk

/-! ### The notes of a poll -/

theorem taken_pollNotes (cursor : Option Int) (before : List Note) (call : Call) (data : Json)
    (reached : List Json) :
    taken (pollNotes cursor before call data reached) = taken before ++ reached := by
  simp only [pollNotes, taken_append, taken_walkNotes, List.append_assoc]
  rfl

theorem not_polled_of_mem_walkNotes {n : Note} {reached : List Json}
    (hn : n ∈ walkNotes cursor reached) : n.step ≠ .polled := by
  induction reached generalizing cursor with
  | nil => cases hn
  | cons y reached ih =>
      rcases List.mem_cons.mp hn with rfl | hn
      · nofun
      · exact ih hn

theorem answers_walkNotes (cursor : Option Int) (reached : List Json) :
    answers (walkNotes cursor reached) = [] := by
  induction reached generalizing cursor with
  | nil => rfl
  | cons y reached ih => exact ih (passed cursor y)

theorem answers_pollNotes (cursor : Option Int) (before : List Note) (call : Call) (data : Json)
    (reached : List Json) :
    answers (pollNotes cursor before call data reached) = answers before ++ [data] := by
  have hwalk := answers_walkNotes cursor reached
  unfold answers at hwalk ⊢
  simp only [pollNotes, List.filterMap_append, hwalk, List.append_nil, List.append_assoc]
  rfl

theorem atPolls_append {P : Option Int → List Note → Prop} {before added : List Note}
    (hadded : ∀ n ∈ added, n.step ≠ .polled) :
    AtPolls P (before ++ added) ↔ AtPolls P before := by
  induction added generalizing before with
  | nil => rw [List.append_nil]
  | cons n added ih =>
      have hn := hadded n List.mem_cons_self
      rw [List.append_cons, ih fun m hm => hadded m (List.mem_cons_of_mem n hm), atPolls_concat]
      exact and_iff_left fun h => absurd h hn

/-- A poll with a walk starts once. -/
theorem atPolls_pollNotes {P : Option Int → List Note → Prop} {before : List Note} {call : Call}
    {data : Json} {reached : List Json} :
    AtPolls P (pollNotes cursor before call data reached) ↔ AtPolls P before ∧ P cursor before := by
  rw [pollNotes, atPolls_append fun n => not_polled_of_mem_walkNotes, atPolls_concat,
    atPolls_concat]
  exact ⟨fun h => ⟨h.1.1, h.1.2 rfl⟩, fun h => ⟨⟨h.1, fun _ => h.2⟩, nofun⟩⟩

/-! ### Runs -/

variable {time : Nat} {call : Call} {data : Json} {reached rest : List Json}

/-- A walk takes none of the tweets that the cursor had passed. -/
theorem Walk.mem_taken_of_below (hw : Walk timeline cursor time data reached rest) {x : Json}
    (hx : x ∈ taken (pollNotes cursor notes call data reached))
    (hbelow : isAbove cursor x = false) : x ∈ taken notes := by
  rw [taken_pollNotes, List.mem_append] at hx
  refine hx.resolve_right fun hreached => ?_
  rw [(hw.of_reached hreached).2] at hbelow
  cases hbelow

/-- No tweet above the cursor had been taken: those that are taken then were walked over. -/
theorem Passing.mem_reached_of_above (h : Passing timeline cursor notes) {x : Json}
    (hx : x ∈ taken (pollNotes cursor notes call data reached))
    (habove : isAbove cursor x = true) : x ∈ reached := by
  rw [taken_pollNotes, List.mem_append] at hx
  refine hx.resolve_left fun htaken => ?_
  rw [h.bounded x htaken] at habove
  cases habove

theorem Passing.complete_walked (hfeed : Feed timeline) (h : Passing timeline cursor notes)
    (hw : Walk timeline cursor time data reached rest) :
    Complete timeline (walkEnd cursor reached) (pollNotes cursor notes call data reached) ↔
      Complete timeline cursor notes ∧ rest = [] := by
  constructor
  · intro hcomplete
    refine ⟨fun i x hx hbelow => ?_, List.eq_nil_iff_forall_not_mem.mpr fun x hx => ?_⟩
    · exact hw.mem_taken_of_below
        (hcomplete i x hx ((hw.isAbove_end hfeed).mpr (.inl hbelow))) hbelow
    · have hbatch := List.mem_append_right reached hx
      have hlisted := hw.mem.mp hbatch
      have hpassed := (hw.isAbove_end hfeed).mpr (.inr (hw.exists_above hfeed hbatch))
      exact hw.not_reached_of_rest hfeed hx
        (h.mem_reached_of_above (hcomplete time x hlisted.1 hpassed) hlisted.2)
  · rintro ⟨hcomplete, rfl⟩ i x hx hpassed
    rw [taken_pollNotes, List.mem_append]
    cases hbelow : isAbove cursor x with
    | false => exact .inl (hcomplete i x hx hbelow)
    | true =>
        rcases (hw.isAbove_end hfeed).mp hpassed with hbelow' | ⟨y, hy, hle⟩
        · rw [hbelow] at hbelow'
          cases hbelow'
        · have hmem := hfeed.mem_of_le (hw.of_reached hy).1 hx hle
          have hreached := hw.mem.mpr ⟨hmem, hbelow⟩
          rw [List.append_nil] at hreached
          exact .inr hreached

/-- The oldest tweet of an answer is the last one of the walk. -/
theorem Walk.getLast?_listed (hw : Walk timeline cursor time data reached rest) :
    (listed data).getLast? = (reached ++ rest).getLast? := by
  rw [← hw.batch]
  rcases hw.lists with rfl | ⟨hnil, rfl⟩
  · rfl
  · rw [hnil]
    rfl

theorem Passing.walksEnd_walked (hfeed : Feed timeline) (h : Passing timeline cursor notes)
    (hw : Walk timeline cursor time data reached rest) :
    WalksEnd (pollNotes cursor notes call data reached) ↔ WalksEnd notes ∧ rest = [] := by
  unfold WalksEnd
  rw [answers_pollNotes, List.forall_mem_append, List.forall_mem_singleton, hw.getLast?_listed]
  constructor
  · rintro ⟨hbefore, hlast⟩
    refine ⟨fun data' hdata' x hx => ?_, ?_⟩
    · have hbelow := h.listed_passed data' hdata' x (List.mem_of_getLast? hx)
      exact hw.mem_taken_of_below (hbefore data' hdata' x hx) hbelow
    · cases hrest : rest.getLast? with
      | none => exact List.getLast?_eq_none_iff.mp hrest
      | some x =>
          have hmem := List.mem_of_getLast? hrest
          have htaken := hlast x (by rw [List.getLast?_append, hrest]; rfl)
          have habove := (hw.mem.mp (List.mem_append_right reached hmem)).2
          exact absurd (h.mem_reached_of_above htaken habove) (hw.not_reached_of_rest hfeed hmem)
  · rintro ⟨hend, rfl⟩
    rw [taken_pollNotes]
    refine ⟨fun data' hdata' x hx => List.mem_append_left reached (hend data' hdata' x hx), ?_⟩
    intro x hx
    rw [List.append_nil] at hx
    exact List.mem_append_right _ (List.mem_of_getLast? hx)

/-- What a poll keeps of its own: it starts once, moves the cursor on and takes no tweet that the
cursor had passed. -/
theorem Passing.step (h : Passing timeline cursor notes) {cursor' : Option Int} {notes' : List Note}
    (hpolls : ∀ P, AtPolls P notes' ↔ AtPolls P notes ∧ P cursor notes)
    (hmonotone : ∀ x, isAbove cursor x = false → isAbove cursor' x = false)
    (hfresh : ∀ x ∈ taken notes', isAbove cursor x = false → x ∈ taken notes)
    (hbounded : ∀ x ∈ taken notes', isAbove cursor' x = false)
    (hlisted : ∀ data ∈ answers notes', ∀ x ∈ listed data, isAbove cursor' x = false)
    (hcomplete : Complete timeline cursor' notes' ↔ WalksEnd notes') :
    Passing timeline cursor' notes' where
  bounded := hbounded
  listed_passed := hlisted
  monotone := (hpolls _).mpr
    ⟨fun j c hj x hx => hmonotone x (h.monotone j c hj x hx), hmonotone⟩
  complete_iff := hcomplete
  noneSkipped_iff := by
    have hbefore := h.noneSkipped_iff
    unfold NoneSkipped at hbefore ⊢
    rw [hpolls, hpolls, h.complete_iff, hbefore]
  settled := (hpolls _).mpr
    ⟨fun j c hj x hx hbelow => h.settled j c hj x (hfresh x hx (h.monotone j c hj x hbelow)) hbelow,
      hfresh⟩

theorem Passing.failed (h : Passing timeline cursor notes) :
    Passing timeline cursor (notes ++ [⟨cursor, .polled⟩]) := by
  have htaken : taken (notes ++ [⟨cursor, .polled⟩]) = taken notes := by
    rw [taken_append]
    exact List.append_nil _
  have hanswers : answers (notes ++ [⟨cursor, .polled⟩]) = answers notes := by
    rw [answers, List.filterMap_append]
    exact List.append_nil _
  refine h.step (fun P => ?_) (fun _ hx => hx) ?_ ?_ ?_ ?_
  · rw [atPolls_concat]
    exact and_congr_right fun _ => ⟨fun hP => hP rfl, fun hP _ => hP⟩
  · rw [htaken]
    exact fun x hx _ => hx
  · rw [htaken]
    exact h.bounded
  · rw [hanswers]
    exact h.listed_passed
  · have hiff := h.complete_iff
    unfold Complete WalksEnd at hiff ⊢
    rwa [htaken, hanswers]

theorem Passing.walked (hfeed : Feed timeline) (h : Passing timeline cursor notes)
    (hw : Walk timeline cursor time data reached rest) :
    Passing timeline (walkEnd cursor reached) (pollNotes cursor notes call data reached) := by
  have hmonotone : ∀ x, isAbove cursor x = false → isAbove (walkEnd cursor reached) x = false :=
    fun x hx => (hw.isAbove_end hfeed).mpr (.inl hx)
  have hbatch : ∀ x ∈ reached ++ rest, isAbove (walkEnd cursor reached) x = false :=
    fun x hx => (hw.isAbove_end hfeed).mpr (.inr (hw.exists_above hfeed hx))
  refine h.step (fun P => atPolls_pollNotes) hmonotone (fun x => hw.mem_taken_of_below) ?_ ?_ ?_
  · rw [taken_pollNotes, List.forall_mem_append]
    exact ⟨fun x hx => hmonotone x (h.bounded x hx),
      fun x hx => hbatch x (List.mem_append_left rest hx)⟩
  · rw [answers_pollNotes, List.forall_mem_append, List.forall_mem_singleton]
    refine ⟨fun data' hdata' x hx => hmonotone x (h.listed_passed data' hdata' x hx), ?_⟩
    intro x hx
    rw [mem_listed hw.lists, hw.batch] at hx
    exact hbatch x hx
  · rw [h.complete_walked hfeed hw, h.walksEnd_walked hfeed hw, h.complete_iff]

theorem passing_of_polls (hfeed : Feed timeline) (h : Polls id timeline cursor notes) :
    Passing timeline cursor notes := by
  induction h with
  | start => exact .start timeline
  | failed _ ih => exact ih.failed
  | walked _ _ hlists hbatch hfirst ih => exact ih.walked hfeed ⟨hlists, hbatch, hfirst⟩

end Persona.Twitter

namespace Persona.Scribe

open Twitter (Note Poller Feed Served NoneSkipped AtPolls WalksEnd Settled Passing taken tweet)

/-! ## The scribe's polls -/

variable (s : Scribe)

/-- Look for the question in a tweet and reply to it, if there is one. -/
def answerTweet (id tweet : Json) : Act Unit := do
  let text ← Act.look (Twitter.attr tweet "text")
  let question := tweetQuestion (← Act.look (Twitter.searchable text))
  unless question.isEmpty do
    Act.print ("📨 Question from Twitter: " ++ question)
    let reply ← s.tweetReply question
    discard (Act.twitter (.createTweet reply (some id)))
    Act.print ("✅ Replied to " ++ id.text)

/-- The scribe as a poller. A tweet counts as taken when the look for its question starts. -/
def poller : Poller where
  fields := ["text", "author_id", "conversation_id"]
  order := Json.items
  prepare tweet := .ok tweet
  work := s.answerTweet
  complaint := "❌ Twitter poll error: "
  pause := 120

theorem noted_take (tweet : Json) : ActOn.Noted (s.poller.take tweet) (s.takeTweet tweet) := by
  unfold Poller.take takeTweet
  refine .bind (.lift _) fun id => .bind (.lift _) fun number => .bind (.silent _) fun _ => ?_
  have hneeded : (liftM (Act.look (s.poller.prepare tweet)) : ActOn (Option Int × List Note) Json) =
      pure tweet := rfl
  rw [hneeded, pure_bind]
  refine .note_bind ?_ _
  change ActOn.Noted (liftM (s.answerTweet id tweet)) _
  unfold answerTweet
  rw [ActOn.lift_bind]
  refine .bind (.lift _) fun text => ?_
  rw [ActOn.lift_bind]
  refine .bind (.lift _) fun searched => ?_
  dsimp only
  split
  · exact .pure _
  · rw [ActOn.lift_bind]
    refine .bind (.lift _) fun _ => ?_
    rw [ActOn.lift_bind]
    refine .bind (.lift _) fun reply => ?_
    rw [ActOn.lift_bind, ActOn.lift_discard]
    exact .bind (.bind (.lift _) fun _ => .pure _) fun _ => .lift _

theorem noted_poll : ActOn.Noted s.poller.poll s.poll := by
  unfold Poller.poll poll
  refine .recover (.note_bind ?_ _) fun f => .bind (.lift _) fun _ => .lift _
  refine .bind (.silent _) fun last => .bind (s.poller.noted_ask last) fun data => ?_
  unfold Poller.walk
  cases data.truthy with
  | false => exact .lift _
  | true =>
      rw [if_pos rfl, bind_assoc]
      exact .bind (.lift _) fun tweets => .bind (.forM s.noted_take tweets) fun _ => .lift _

/-- The scribe's watch with notes. -/
def watchNoting : ActOn (List Note) Unit := do
  if ← (Act.isInstalled "tweepy" : Act Bool) then
    let s ← (create : Act Scribe)
    if s.hasTwitter then
      (Act.print "🐦 Twitter Oracle starting..." : Act Unit)
      let rounds ← (Act.sleepsLeft : Act Nat)
      discard ((s.poller.poll.forever rounds).noting none)
    else (Act.print "❌ Twitter not configured" : Act Unit)
  else (Act.print "❌ tweepy not installed" : Act Unit)

theorem noted_watchTwitter : Act.Noted watchNoting watchTwitter := by
  unfold watchNoting watchTwitter
  refine .bind (.lift _) fun installed => ?_
  cases installed with
  | false => exact .lift _
  | true =>
      refine .bind (.lift _) fun s => ?_
      split
      · refine .bind (.lift _) fun _ => .bind (.lift _) fun rounds => ?_
        exact .bind (.noting (s.noted_poll.forever rounds) none) fun _ => .pure _
      · exact .lift _

/-- The notes of a watch are those of its polls; there are none if it ends before the first. -/
theorem notes_watchNoting {P : List Note → Prop} (hnil : P [])
    (h : ∀ (s : Scribe) rounds w, P (s.poller.poll.forever rounds (none, []) w).1.2.2) (w : World) :
    P (watchNoting.notes w) := by
  unfold watchNoting
  refine ActOn.notes_lift_bind hnil _ (fun installed w => ?_) w
  cases installed with
  | false => exact hnil
  | true =>
      refine ActOn.notes_lift_bind hnil _ (fun s w => ?_) w
      split
      · refine ActOn.notes_lift_bind hnil _ (fun _ w => ?_) w
        refine ActOn.notes_lift_bind hnil _ (fun rounds w => ?_) w
        rw [ActOn.notes_discard_noting]
        exact h s rounds w
      · exact hnil

/-- If the numbers of mentions grow and each answer lists the mentions above the number asked for,
the scribe has looked at all mentions at or below its cursor when it polls, exactly if each walk
before came to the oldest mention of its answer. What it has not looked at by then it never looks
at. The notes are those of the scribe's own watch. -/
theorem none_skipped_iff_walks_end {timeline : Nat → List Json} (hfeed : Feed timeline) (w : World)
    (hserved : Served timeline (watchNoting.notes w)) :
    watchNoting.forget = watchTwitter ∧
      (NoneSkipped timeline (watchNoting.notes w) ↔
        AtPolls (fun _ => WalksEnd) (watchNoting.notes w)) ∧
      AtPolls (Settled (taken (watchNoting.notes w))) (watchNoting.notes w) := by
  refine ⟨noted_watchTwitter.forget_eq, ?_⟩
  have hpassing : ∃ cursor, Passing timeline cursor (watchNoting.notes w) := by
    revert hserved
    refine notes_watchNoting
      (P := fun notes => Served timeline notes → ∃ cursor, Passing timeline cursor notes)
      (fun _ => ⟨none, .start timeline⟩) (fun s rounds w hserved => ?_) w
    have hready : ∀ i, ∀ t ∈ timeline i, s.poller.Ready t := fun i t ht =>
      ⟨hfeed.numbered i t ht, t, rfl⟩
    have horder : ∀ xs, s.poller.order (.arr xs) = .ok (id xs) := fun _ => rfl
    have hpolls := Poller.polls_of_run horder (fun _ => List.Subset.refl _) hready rounds w hserved
    exact ⟨_, Twitter.passing_of_polls hfeed hpolls⟩
  obtain ⟨cursor, hpassing⟩ := hpassing
  exact ⟨hpassing.noneSkipped_iff, hpassing.settled⟩

def questions : List Json := [tweet "1" "@phi why?", tweet "2" "@phi how?"]

/-- Both questions are there at the first poll; then come the answers to the replies. -/
def askedWorld (replies : List (Scripted Twitter.Answer)) : World where
  clock := ⟨0⟩
  draws := ⟨[], 0⟩
  twitter := .gives (.result (.arr questions.reverse) .null) :: replies ++
    [.gives (.result .null .null)]
  limits := { sleeps := 2 }

/-- The call of a scribe for the mentions above a cursor. -/
def asking (cursor : Option Int) : Twitter.Call :=
  (poller ⟨false, true, none, none⟩).call none cursor

theorem feed_questions : Feed fun _ => questions := by
  change Feed fun _ => questions.take 2
  refine Feed.of_take (by decide) ?_ fun _ => Nat.le_refl 2
  intro x hx
  simp only [questions, List.mem_cons, List.not_mem_nil, or_false] at hx
  rcases hx with rfl | rfl
  · exact ⟨.str "1", rfl, rfl, by decide⟩
  · exact ⟨.str "2", rfl, rfl, by decide⟩

/-- The reply to the older question is refused. -/
def olderRefused : World := askedWorld [.gives (.result .null .null), .fails "refused"]

set_option maxRecDepth 10000 in
theorem notes_olderRefused : watchNoting.notes olderRefused =
    [⟨none, .polled⟩, ⟨none, .answered (asking none) (.arr questions.reverse)⟩,
      ⟨some 2, .taken (tweet "2" "@phi how?")⟩, ⟨some 2, .taken (tweet "1" "@phi why?")⟩,
      ⟨some 2, .polled⟩, ⟨some 2, .answered (asking (some 2)) .null⟩] := by
  with_unfolding_all rfl

/-- The reply to the newer question is refused. -/
def newerRefused : World := askedWorld [.fails "refused"]

set_option maxRecDepth 10000 in
theorem notes_newerRefused : watchNoting.notes newerRefused =
    [⟨none, .polled⟩, ⟨none, .answered (asking none) (.arr questions.reverse)⟩,
      ⟨some 2, .taken (tweet "2" "@phi how?")⟩,
      ⟨some 2, .polled⟩, ⟨some 2, .answered (asking (some 2)) .null⟩] := by
  with_unfolding_all rfl

theorem served_olderRefused : Served (fun _ => questions) (watchNoting.notes olderRefused) := by
  intro i cursor call data hi
  rw [notes_olderRefused] at hi
  match i with
  | 1 => cases hi; exact .inl rfl
  | 5 => cases hi; exact .inr ⟨rfl, rfl⟩
  | 0 | 2 | 3 | 4 => cases hi
  | _ + 6 => cases hi

/-- A failure at the oldest mention of an answer does no harm. -/
theorem none_skipped_iff_walks_end_olderRefused :
    Feed (fun _ => questions) ∧ Served (fun _ => questions) (watchNoting.notes olderRefused) ∧
      AtPolls (fun _ => WalksEnd) (watchNoting.notes olderRefused) ∧
      NoneSkipped (fun _ => questions) (watchNoting.notes olderRefused) := by
  have hend : AtPolls (fun _ => WalksEnd) (watchNoting.notes olderRefused) := by
    rw [notes_olderRefused]
    intro j c hj
    match j with
    | 0 => exact fun data hdata => nomatch hdata
    | 4 =>
        intro data hdata x hx
        rw [List.mem_singleton.mp hdata] at hx
        cases hx
        exact List.mem_cons_of_mem _ List.mem_cons_self
    | 1 | 2 | 3 | 5 => cases hj
    | _ + 6 => cases hj
  exact ⟨feed_questions, served_olderRefused, hend,
    (none_skipped_iff_walks_end feed_questions olderRefused served_olderRefused).2.1.mpr hend⟩

theorem served_newerRefused : Served (fun _ => questions) (watchNoting.notes newerRefused) := by
  intro i cursor call data hi
  rw [notes_newerRefused] at hi
  match i with
  | 1 => cases hi; exact .inl rfl
  | 4 => cases hi; exact .inr ⟨rfl, rfl⟩
  | 0 | 2 | 3 => cases hi
  | _ + 5 => cases hi

/-- A failure at the newer of two questions: the older one is passed over. -/
theorem older_question_passed_over :
    Feed (fun _ => questions) ∧ Served (fun _ => questions) (watchNoting.notes newerRefused) ∧
      ¬ NoneSkipped (fun _ => questions) (watchNoting.notes newerRefused) := by
  refine ⟨feed_questions, served_newerRefused, fun h => ?_⟩
  rw [notes_newerRefused] at h
  have hmem := h 3 (some 2) rfl 0 (tweet "1" "@phi why?") List.mem_cons_self (by decide)
  exact absurd (congrArg Mention.numberOf (List.mem_singleton.mp hmem)) (by decide)

end Persona.Scribe
