import Persona.Companion.Mentions
import Persona.Proofs.Service.Polling

/-!
# Every mention is attempted once, in order

The companion walks over the mentions of an answer from the oldest to the newest. Wherever a failure
ends the walk, those it has not come to lie above the cursor, so they are asked for again.

The invariant: the mentions that were taken are those at or below the cursor.

Main statement: `mentions_attempted_in_order`.
-/

namespace Persona.Twitter

open Mention (numberOf isAbove newestFirst)

/-! ## Walks from the oldest to the newest -/

/-- Tweets are taken in the order of their numbers, and none is left out. -/
structure InOrder (timeline : Nat → List Json) (notes : List Note) : Prop where
  /-- No tweet is taken twice, and none after a newer one. -/
  increasing : (taken notes).Pairwise fun a b => numberOf a < numberOf b
  appeared : ∀ (j : Nat) c x, notes[j]? = some ⟨c, .taken x⟩ → x ∈ timeline j
  /-- The cursor never goes back; it starts before all numbers. -/
  monotone : (notes.map fun n => n.cursor.getD 0).Pairwise (· ≤ ·)
  noneSkipped : NoneSkipped timeline notes
  /-- What an answer lists and the walk did not come to, the next answer lists again. -/
  again : ∀ (i j : Nat) c c' call call' data data', i < j →
    notes[i]? = some ⟨c, .answered call data⟩ → notes[j]? = some ⟨c', .answered call' data'⟩ →
    ∀ x ∈ listed data, x ∉ taken (notes.take j) → x ∈ listed data'

/-- The tweets that were taken are those at or below the cursor. -/
structure Caught (timeline : Nat → List Json) (cursor : Option Int) (notes : List Note) : Prop
    extends InOrder timeline notes where
  bounded : ∀ x ∈ taken notes, isAbove cursor x = false
  complete : Complete timeline cursor notes
  last : ∀ n ∈ notes, n.cursor.getD 0 ≤ cursor.getD 0

variable {timeline : Nat → List Json} {cursor : Option Int} {notes : List Note}

theorem passed_of_above {x : Json} (hx : Numbered x) (habove : isAbove cursor x = true) :
    passed cursor x = some (numberOf x) := by
  obtain ⟨-, -, -, hpos⟩ := hx
  unfold passed
  cases cursor with
  | none => rw [Option.getD_none, Int.max_eq_right (Int.le_of_lt hpos)]
  | some n =>
      simp only [isAbove, decide_eq_true_eq] at habove
      rw [Option.getD_some, Int.max_eq_right (Int.le_of_lt habove)]

theorem Caught.start (timeline : Nat → List Json) : Caught timeline none [] where
  increasing := .nil
  appeared j c x h := by cases h
  monotone := .nil
  noneSkipped j c h := by cases h
  again i j c c' call call' data data' _ h := by cases h
  bounded x hx := by cases hx
  complete i x _ h := by cases h
  last n hn := by cases hn

/-- What a further note must tell so that the order is kept. -/
structure Fits (timeline : Nat → List Json) (cursor : Option Int) (notes : List Note) (n : Note) :
    Prop where
  cursor_le : cursor.getD 0 ≤ n.cursor.getD 0
  polled : n.step = .polled → n.cursor = cursor
  answered : ∀ call data, n.step = .answered call data →
    Mention.TwitterInbox.Lists (newestFirst (timeline notes.length) cursor) data
  taken : ∀ x, n.step = .taken x → x ∈ timeline notes.length ∧ isAbove cursor x = true

theorem Caught.inOrder_concat (hfeed : Feed timeline) (h : Caught timeline cursor notes)
    (hserved : Served timeline notes) {n : Note} (hn : Fits timeline cursor notes n) :
    InOrder timeline (notes ++ [n]) where
  increasing := by
    rw [taken_concat, List.pairwise_append]
    refine ⟨h.increasing, ?_, fun a ha b hb => ?_⟩
    · cases n.tweet? <;> simp
    · obtain ⟨m, rfl, hle⟩ := isAbove_eq_false_iff.mp (h.bounded a ha)
      have habove := (hn.taken b (mem_tweet?_iff.mp hb)).2
      simp only [isAbove, decide_eq_true_eq] at habove
      omega
  appeared j c x hj := by
    rcases Mention.getElem?_concat_cases hj with ⟨-, hj⟩ | ⟨rfl, rfl⟩
    · exact h.appeared j c x hj
    · exact (hn.taken x rfl).1
  monotone := by
    rw [List.map_append, List.pairwise_append]
    refine ⟨h.monotone, List.pairwise_singleton _ _, fun a ha b hb => ?_⟩
    obtain ⟨m, hm, rfl⟩ := List.mem_map.mp ha
    rw [List.map_singleton, List.mem_singleton] at hb
    subst hb
    exact Int.le_trans (h.last m hm) hn.cursor_le
  noneSkipped := atPolls_concat.mpr ⟨h.noneSkipped, fun hpolled =>
    hn.polled hpolled ▸ h.complete⟩
  again i j c c' call call' data data' hij hi hj x hx hnot := by
    rcases Mention.getElem?_concat_cases hj with ⟨hlt, hj⟩ | ⟨rfl, rfl⟩
    · rw [List.getElem?_append_left (hij.trans hlt)] at hi
      rw [List.take_append_of_le_length (Nat.le_of_lt hlt)] at hnot
      exact h.again i j c c' call call' data data' hij hi hj x hx hnot
    · rw [List.getElem?_append_left hij] at hi
      rw [List.take_left] at hnot
      rw [mem_listed (hserved i c call data hi), mem_newestFirst] at hx
      rw [mem_listed (hn.answered call' data' rfl), mem_newestFirst]
      -- what was not taken lies above the cursor
      refine ⟨(hfeed.grows (Nat.le_of_lt hij)).subset hx.1, ?_⟩
      rw [← Bool.not_eq_false]
      exact fun hbelow => hnot (h.complete i x hx.1 hbelow)

/-- A note about no tweet, with the cursor as it is. -/
theorem Caught.concat (hfeed : Feed timeline) (h : Caught timeline cursor notes)
    (hserved : Served timeline notes) {step : Step} (hstep : ∀ x, step ≠ .taken x)
    (hanswered : ∀ call data, step = .answered call data →
      Mention.TwitterInbox.Lists (newestFirst (timeline notes.length) cursor) data) :
    Caught timeline cursor (notes ++ [⟨cursor, step⟩]) := by
  have hnone : (⟨cursor, step⟩ : Note).tweet?.toList = [] := by
    rw [List.eq_nil_iff_forall_not_mem]
    exact fun x hx => hstep x (mem_tweet?_iff.mp hx)
  have htaken : taken (notes ++ [⟨cursor, step⟩]) = taken notes := by
    rw [taken_concat, hnone, List.append_nil]
  refine ⟨h.inOrder_concat hfeed hserved ⟨Int.le_refl _, fun _ => rfl, hanswered, ?_⟩, ?_, ?_, ?_⟩
  · exact fun x hx => absurd hx (hstep x)
  · rw [htaken]
    exact h.bounded
  · unfold Complete
    rw [htaken]
    exact h.complete
  · intro n hn
    rcases List.mem_append.mp hn with hn | hn
    · exact h.last n hn
    · obtain rfl := List.mem_singleton.mp hn
      exact Int.le_refl _

/-- The oldest tweet above the cursor is taken, and the cursor moves to it. -/
theorem Caught.take (hfeed : Feed timeline) (h : Caught timeline cursor notes)
    (hserved : Served timeline notes) {k : Nat} (hk : k ≤ notes.length) {x : Json}
    {rest : List Json} (hrest : (timeline k).filter (isAbove cursor) = x :: rest) :
    Caught timeline (passed cursor x) (notes ++ [⟨passed cursor x, .taken x⟩]) ∧
      (timeline k).filter (isAbove (passed cursor x)) = rest := by
  have hmem : x ∈ (timeline k).filter (isAbove cursor) := by
    rw [hrest]
    exact List.mem_cons_self
  obtain ⟨hxk, habove⟩ := List.mem_filter.mp hmem
  have hless : ∀ y ∈ rest, numberOf x < numberOf y := by
    have hincreasing := (hfeed.increasing k).filter (isAbove cursor)
    rw [hrest, List.pairwise_cons] at hincreasing
    exact hincreasing.1
  rw [passed_of_above (hfeed.numbered k x hxk) habove]
  have hcursor : cursor.getD 0 ≤ numberOf x ∧
      ∀ y, isAbove cursor y = false → numberOf y ≤ numberOf x := by
    obtain ⟨-, -, -, hpos⟩ := hfeed.numbered k x hxk
    cases cursor with
    | none => exact ⟨Int.le_of_lt hpos, fun y hy => by cases hy⟩
    | some n =>
        simp only [isAbove, decide_eq_true_eq, decide_eq_false_iff_not, Option.getD_some]
          at habove ⊢
        exact ⟨Int.le_of_lt habove, fun y hy => by omega⟩
  refine ⟨⟨h.inOrder_concat hfeed hserved ⟨hcursor.1, ?_, ?_, ?_⟩, ?_, ?_, ?_⟩, ?_⟩
  · exact fun hstep => by cases hstep
  · exact fun call data hstep => by cases hstep
  · intro y hy
    cases hy
    exact ⟨(hfeed.grows hk).subset hxk, habove⟩
  · intro y hy
    rw [taken_concat, List.mem_append] at hy
    rw [isAbove, decide_eq_false_iff_not, Int.not_lt]
    rcases hy with hy | hy
    · exact hcursor.2 y (h.bounded y hy)
    · cases mem_tweet?_iff.mp hy
      exact Int.le_refl _
  · intro i y hy hbelow
    rw [isAbove, decide_eq_false_iff_not, Int.not_lt] at hbelow
    rw [taken_concat, List.mem_append]
    -- a tweet that is not newer had appeared, so it was taken before or is the one taken now
    have hyk := hfeed.mem_of_le hxk hy hbelow
    cases hold : isAbove cursor y with
    | false => exact .inl (h.complete i y hy hold)
    | true =>
        have hybatch : y ∈ x :: rest := by
          rw [← hrest]
          exact List.mem_filter.mpr ⟨hyk, hold⟩
        rcases List.mem_cons.mp hybatch with rfl | hyrest
        · exact .inr (mem_tweet?_iff.mpr rfl)
        · have := hless y hyrest
          omega
  · intro n hn
    rcases List.mem_append.mp hn with hn | hn
    · exact Int.le_trans (h.last n hn) hcursor.1
    · obtain rfl := List.mem_singleton.mp hn
      exact Int.le_refl _
  · have hfilter : (timeline k).filter (isAbove (some (numberOf x))) =
        ((timeline k).filter (isAbove cursor)).filter (isAbove (some (numberOf x))) := by
      rw [List.filter_filter]
      refine List.filter_congr fun y _ => ?_
      cases hold : isAbove cursor y with
      | true => rw [Bool.and_true]
      | false =>
          rw [Bool.and_false, isAbove, decide_eq_false_iff_not, Int.not_lt]
          exact hcursor.2 y hold
    rw [hfilter, hrest, List.filter_cons_of_neg (by simp [isAbove])]
    exact List.filter_eq_self.mpr fun y hy => by simpa [isAbove] using hless y hy

/-- A walk from the oldest tweet above the cursor on. -/
theorem Caught.walk (hfeed : Feed timeline) {k : Nat} {reached rest : List Json}
    (h : Caught timeline cursor notes)
    (hserved : Served timeline (notes ++ walkNotes cursor reached))
    (hk : k ≤ notes.length) (hbatch : (timeline k).filter (isAbove cursor) = reached ++ rest) :
    Caught timeline (walkEnd cursor reached) (notes ++ walkNotes cursor reached) := by
  induction reached generalizing cursor notes with
  | nil =>
      rw [walkNotes, List.append_nil]
      exact h
  | cons x reached ih =>
      obtain ⟨hnext, hrest⟩ :=
        h.take hfeed (hserved.mono (List.prefix_append _ _)) hk hbatch
      have happend : notes ++ walkNotes cursor (x :: reached) =
          notes ++ [⟨passed cursor x, .taken x⟩] ++ walkNotes (passed cursor x) reached := by
        rw [List.append_assoc]
        rfl
      rw [happend] at hserved ⊢
      refine ih hnext hserved ?_ hrest
      rw [List.length_append]
      omega

theorem Caught.polled (hfeed : Feed timeline) (h : Caught timeline cursor notes)
    (hserved : Served timeline notes) : Caught timeline cursor (notes ++ [⟨cursor, .polled⟩]) :=
  h.concat hfeed hserved nofun nofun

theorem Caught.answered (hfeed : Feed timeline) (h : Caught timeline cursor notes)
    (hserved : Served timeline notes) (call : Call) {data : Json}
    (hlists : Mention.TwitterInbox.Lists (newestFirst (timeline notes.length) cursor) data) :
    Caught timeline cursor (notes ++ [⟨cursor, .answered call data⟩]) := by
  refine h.concat hfeed hserved nofun fun call' data' hstep => ?_
  cases hstep
  exact hlists

/-- On every path of polls that walk from the oldest to the newest, what was taken is what lies at
or below the cursor. -/
theorem caught_of_polls (hfeed : Feed timeline)
    (h : Polls List.reverse timeline cursor notes) (hserved : Served timeline notes) :
    Caught timeline cursor notes := by
  induction h with
  | start => exact .start timeline
  | failed _ ih =>
      have hbefore := hserved.mono (List.prefix_append _ _)
      exact (ih hbefore).polled hfeed hbefore
  | @walked cursor notes call data reached rest _ hsince hlists hbatch _ ih =>
      have hanswered := hserved.mono (List.prefix_append _ _)
      have hpolled := hanswered.mono (List.prefix_append _ _)
      have hbefore := hpolled.mono (List.prefix_append _ _)
      have hlength : (notes ++ [⟨cursor, .polled⟩] : List Note).length = notes.length + 1 :=
        List.length_append
      have hstarted := (ih hbefore).polled hfeed hbefore
      have hgot := hstarted.answered hfeed hpolled call (hlength ▸ hlists)
      have hbatch' : (timeline (notes.length + 1)).filter (isAbove cursor) = reached ++ rest := by
        rw [← hbatch, newestFirst, List.reverse_reverse]
      exact hgot.walk hfeed hserved (by simp) hbatch'

end Persona.Twitter

namespace Persona.Companion

open Twitter (Note Poller Feed Served InOrder tweet)

/-! ## The companion's polls -/

/-- The companion as a poller. A tweet counts as taken when the response to its text is asked
for. -/
def poller : Poller where
  fields := ["conversation_id", "author_id"]
  order := reversed
  prepare tweet := Twitter.attr tweet "text"
  work id text := do
    let response ← respondOnTwitter text
    reply id response
  complaint := "Twitter error: "
  pause := 300

theorem noted_take (tweet : Json) : ActOn.Noted (poller.take tweet) (takeTweet tweet) := by
  unfold Poller.take takeTweet
  refine .bind (.lift _) fun id => .bind (.lift _) fun number => .bind (.silent _) fun _ => ?_
  refine .bind (.lift _) fun text => .note_bind ?_ _
  change ActOn.Noted (liftM (respondOnTwitter text >>= reply id)) _
  rw [ActOn.lift_bind]
  exact .bind (.lift _) fun response => .lift _

theorem noted_poll : ActOn.Noted poller.poll poll := by
  unfold Poller.poll poll
  refine .recover (.note_bind ?_ _) fun f => .bind (.lift _) fun _ => .lift _
  refine .bind (.silent _) fun last => .bind (poller.noted_ask last) fun data => ?_
  unfold Poller.walk
  cases data.truthy with
  | false => exact .lift _
  | true =>
      rw [if_pos rfl, bind_assoc]
      exact .bind (.lift _) fun tweets => .bind (.forM noted_take tweets) fun _ => .lift _

/-- The companion's watch with notes. -/
def watchNoting : ActOn (List Note) Unit := do
  if ← (Act.isInstalled "tweepy" : Act Bool) then
    (Twitter.connect (← (Twitter.credentials : Act Twitter.Credentials)) : Act Unit)
    (Act.print "🐦 Twitter bot starting..." : Act Unit)
    let rounds ← (Act.sleepsLeft : Act Nat)
    discard ((poller.poll.forever rounds).noting none)
  else (Act.print "Tweepy not installed. Run: pip install tweepy" : Act Unit)

theorem noted_watchTwitter : Act.Noted watchNoting watchTwitter := by
  unfold watchNoting watchTwitter
  refine .bind (.lift _) fun installed => ?_
  cases installed with
  | false => exact .lift _
  | true =>
      refine .bind (.lift _) fun credentials => .bind (.lift _) fun _ => .bind (.lift _) fun _ => ?_
      refine .bind (.lift _) fun rounds => ?_
      exact .bind (.noting (noted_poll.forever rounds) none) fun _ => .pure _

/-- The notes of a watch are those of its polls; there are none if it ends before the first. -/
theorem notes_watchNoting {P : List Note → Prop} (hnil : P [])
    (h : ∀ rounds w, P (poller.poll.forever rounds (none, []) w).1.2.2) (w : World) :
    P (watchNoting.notes w) := by
  unfold watchNoting
  refine ActOn.notes_lift_bind hnil _ (fun installed w => ?_) w
  cases installed with
  | false => exact hnil
  | true =>
      refine ActOn.notes_lift_bind hnil _ (fun credentials w => ?_) w
      refine ActOn.notes_lift_bind hnil _ (fun _ w => ?_) w
      refine ActOn.notes_lift_bind hnil _ (fun _ w => ?_) w
      refine ActOn.notes_lift_bind hnil _ (fun rounds w => ?_) w
      rw [ActOn.notes_discard_noting]
      exact h rounds w

/-- If the numbers of mentions grow, each mention has a text and each answer lists the mentions
above the number asked for, then whatever else fails, the companion responds to the mentions in the
order of their numbers, to none twice, and has responded to all at or below its cursor when it polls
again. The notes are those of the companion's own watch. -/
theorem mentions_attempted_in_order {timeline : Nat → List Json} (hfeed : Feed timeline)
    (htext : ∀ i, ∀ x ∈ timeline i, ∃ text, Twitter.attr x "text" = .ok text) (w : World)
    (hserved : Served timeline (watchNoting.notes w)) :
    watchNoting.forget = watchTwitter ∧ InOrder timeline (watchNoting.notes w) := by
  refine ⟨noted_watchTwitter.forget_eq, ?_⟩
  have hready : ∀ i, ∀ t ∈ timeline i, poller.Ready t := fun i t ht =>
    ⟨hfeed.numbered i t ht, htext i t ht⟩
  have horder : ∀ xs, poller.order (.arr xs) = .ok xs.reverse := fun _ => rfl
  have hsubset : ∀ xs : List Json, xs.reverse ⊆ xs := fun xs _ hx => List.mem_reverse.mp hx
  revert hserved
  refine notes_watchNoting (P := fun notes => Served timeline notes → InOrder timeline notes)
    (fun _ => (Twitter.Caught.start timeline).toInOrder) (fun rounds w hserved => ?_) w
  have hpolls := Poller.polls_of_run horder hsubset hready rounds w hserved
  exact (Twitter.caught_of_polls hfeed hpolls hserved).toInOrder

/-- Two mentions, and a third one after four notes. -/
def greetings (i : Nat) : List Json :=
  [tweet "1" "hello", tweet "2" "and you?", tweet "3" "good day"].take
    (if i < 4 then 2 else 3)

/-- The model is busy when the first mention is responded to, the reply to the second is refused,
and the third poll gets no answer. -/
def busyWorld : World where
  clock := ⟨0⟩
  draws := ⟨[], 0⟩
  twitter := [.gives (.result (.arr [tweet "2" "and you?", tweet "1" "hello"]) .null),
    .gives (.result (.arr [tweet "3" "good day", tweet "2" "and you?"]) .null),
    .fails "refused", .gives (.result .null .null), .fails "unavailable"]
  model := [.fails "busy", .gives (some (.str "so")), .gives (some (.str "yes"))]
  limits := { sleeps := 3 }

set_option maxRecDepth 10000 in
theorem notes_busyWorld : watchNoting.notes busyWorld =
    [⟨none, .polled⟩,
      ⟨none, .answered (poller.call none none)
        (.arr [tweet "2" "and you?", tweet "1" "hello"])⟩,
      ⟨some 1, .taken (tweet "1" "hello")⟩,
      ⟨some 1, .polled⟩,
      ⟨some 1, .answered (poller.call none (some 1))
        (.arr [tweet "3" "good day", tweet "2" "and you?"])⟩,
      ⟨some 2, .taken (tweet "2" "and you?")⟩,
      ⟨some 3, .taken (tweet "3" "good day")⟩,
      ⟨some 3, .polled⟩] := by
  with_unfolding_all rfl

theorem feed_greetings : Feed greetings := by
  refine Feed.of_take (by decide) ?_ fun {i j} hij => ?_
  · intro x hx
    simp only [List.mem_cons, List.not_mem_nil, or_false] at hx
    rcases hx with rfl | rfl | rfl
    · exact ⟨.str "1", rfl, rfl, by decide⟩
    · exact ⟨.str "2", rfl, rfl, by decide⟩
    · exact ⟨.str "3", rfl, rfl, by decide⟩
  · split <;> split <;> omega

theorem served_busyWorld : Served greetings (watchNoting.notes busyWorld) := by
  intro i cursor call data hi
  rw [notes_busyWorld] at hi
  match i with
  | 1 => cases hi; exact .inl rfl
  | 4 => cases hi; exact .inl rfl
  | 0 | 2 | 3 | 5 | 6 | 7 => cases hi
  | _ + 8 => cases hi

/-- The failure at the first mention does not keep the second from its turn. -/
theorem mentions_attempted_in_order_busyWorld :
    Feed greetings ∧ Served greetings (watchNoting.notes busyWorld) ∧
      (Twitter.taken (watchNoting.notes busyWorld)).map Mention.numberOf = [1, 2, 3] ∧
      InOrder greetings (watchNoting.notes busyWorld) := by
  have htext : ∀ i, ∀ x ∈ greetings i, ∃ text, Twitter.attr x "text" = .ok text := by
    intro i x hx
    have hmem := List.mem_of_mem_take hx
    simp only [List.mem_cons, List.not_mem_nil, or_false] at hmem
    rcases hmem with rfl | rfl | rfl <;> exact ⟨_, rfl⟩
  refine ⟨feed_greetings, served_busyWorld, ?_,
    (mentions_attempted_in_order feed_greetings htext busyWorld served_busyWorld).2⟩
  rw [notes_busyWorld]
  decide

end Persona.Companion
