import Persona.Proofs.Mention.ExactlyOnce
import Persona.Proofs.World.Notes

/-!
# Polling for tweets

A poller asks for the tweets above its cursor again and again and walks over those that it gets. It
moves the cursor to a tweet before it works on it, and a failure ends the walk. Pollers differ in
the order of the walk.

The notes of a poller tell when a poll started, what the service answered and which tweets the walk
came to. If the service answers with the tweets above the cursor, they are those of a path of the
relation `Polls`, on which the laws of a poller are proved.

Main statement: `Poller.polls_of_run`.
-/

namespace Persona.Twitter

open Mention (numberOf isAbove newestFirst)

/-! ## Notes -/

inductive Step where
  /-- A poll starts. -/
  | polled
  /-- The service answered a call with data. -/
  | answered (call : Call) (data : Json)
  /-- The walk came to a tweet, and the work on it starts. -/
  | taken (tweet : Json)

/-- A step with the cursor as it was then. -/
structure Note where
  cursor : Option Int
  step : Step

def Note.tweet? (n : Note) : Option Json :=
  match n.step with
  | .taken tweet => some tweet
  | _ => none

/-- The tweets that were taken. -/
def taken (notes : List Note) : List Json := notes.filterMap Note.tweet?

/-! ## Pollers -/

/-- What pollers differ in. -/
structure Poller where
  /-- The fields of tweets that are asked for. -/
  fields : List String
  /-- The order of the walk over the tweets of an answer. -/
  order : Json → Except Mismatch (List Json)
  /-- What the work on a tweet needs. -/
  prepare : Json → Except Mismatch Json
  /-- The work on a tweet with an id. -/
  work : Json → Json → Act Unit
  complaint : String
  /-- The seconds that a failure is waited out. -/
  pause : Int

namespace Poller

variable (p : Poller)

/-- Take a tweet: the cursor moves first. -/
def take (tweet : Json) : ActOn (Option Int × List Note) Unit := do
  let id ← (Act.look (attr tweet "id") : Act Json)
  let number ← (MonadExcept.ofExcept (Twitter.number id) : Act Int)
  ActOn.silent (modify fun (last : Option Int) => some (max (last.getD 0) number))
  let needed ← (Act.look (p.prepare tweet) : Act Json)
  ActOn.note fun cursor _ => ⟨cursor, .taken tweet⟩
  (p.work id needed : Act Unit)

/-- The call for the tweets above a cursor. -/
def call (user : Option String) (cursor : Option Int) : Call :=
  .getMentions none [("id", Json.ofOption user),
    ("since_id", match cursor with
      | some n => .int n
      | none => .null),
    ("tweet_fields", .arr (p.fields.map .str))]

/-- Ask for the tweets above a cursor. -/
def ask (cursor : Option Int) : ActOn (Option Int × List Note) Json := do
  let user ← (Act.getEnv "TWITTER_USER_ID" : Act (Option String))
  let (data, _) ← (Act.twitter (p.call user cursor) : Act (Json × Json))
  ActOn.note fun cursor' _ => ⟨cursor', .answered (p.call user cursor) data⟩
  return data

/-- Walk over the tweets of an answer. -/
def walk (data : Json) : ActOn (Option Int × List Note) Unit := do
  if data.truthy then
    (← (Act.look (p.order data) : Act (List Json))).forM p.take

/-- One poll; a failure ends it and is waited out. -/
def poll : ActOn (Option Int × List Note) Unit :=
  recover
    (do
      ActOn.note fun cursor _ => ⟨cursor, .polled⟩
      let last : Option Int ← ActOn.silent get
      let data ← p.ask last
      p.walk data
      (Act.sleep (.whole 60) : Act Unit))
    fun f => do
      (Act.print (p.complaint ++ f.message) : Act Unit)
      (Act.sleep (.whole p.pause) : Act Unit)

end Poller

/-! ## A walk -/

/-- A tweet with an id that stands for a number above zero. -/
def Numbered (tweet : Json) : Prop :=
  ∃ id, tweet.field "id" = .ok id ∧ Twitter.number id = .ok (numberOf tweet) ∧ 0 < numberOf tweet

/-- The cursor after a tweet is taken. -/
def passed (cursor : Option Int) (tweet : Json) : Option Int :=
  some (max (cursor.getD 0) (numberOf tweet))

/-- The cursor after a walk. -/
def walkEnd (cursor : Option Int) (tweets : List Json) : Option Int := tweets.foldl passed cursor

/-- The notes of a walk. -/
def walkNotes : Option Int → List Json → List Note
  | _, [] => []
  | cursor, tweet :: rest =>
    ⟨passed cursor tweet, .taken tweet⟩ :: walkNotes (passed cursor tweet) rest

/-- The notes of a poll that is answered with data, after those before it. -/
def pollNotes (cursor : Option Int) (before : List Note) (call : Call) (data : Json)
    (reached : List Json) : List Note :=
  before ++ [⟨cursor, .polled⟩] ++ [⟨cursor, .answered call data⟩] ++ walkNotes cursor reached

theorem taken_append (a b : List Note) : taken (a ++ b) = taken a ++ taken b :=
  List.filterMap_append

theorem taken_concat (notes : List Note) (n : Note) :
    taken (notes ++ [n]) = taken notes ++ n.tweet?.toList := by
  rw [taken_append]
  cases h : n.tweet? <;> simp [taken, h]

theorem mem_tweet?_iff {n : Note} {x : Json} : x ∈ n.tweet?.toList ↔ n.step = .taken x := by
  obtain ⟨c, step⟩ := n
  cases step <;> simp [Note.tweet?, eq_comm]

theorem taken_walkNotes (cursor : Option Int) (tweets : List Json) :
    taken (walkNotes cursor tweets) = tweets := by
  induction tweets generalizing cursor with
  | nil => rfl
  | cons tweet rest ih =>
      change tweet :: taken (walkNotes (passed cursor tweet) rest) = _
      rw [ih]

namespace Poller

variable (p : Poller)

/-- Nothing keeps a poller from starting the work on a tweet. -/
def Ready (tweet : Json) : Prop := Numbered tweet ∧ ∃ needed, p.prepare tweet = .ok needed

variable {p}

theorem take_of_ready {tweet : Json} (h : p.Ready tweet) (cursor : Option Int) (notes : List Note)
    (w : World) : ∃ r w', p.take tweet (cursor, notes) w =
      ((r, (passed cursor tweet, notes ++ [⟨passed cursor tweet, .taken tweet⟩])), w') := by
  obtain ⟨⟨id, hid, hnumber, -⟩, needed, hneeded⟩ := h
  have hattr := Mention.TwitterInbox.attr_of_field hid
  rcases hwork : p.work id needed w with ⟨r, w'⟩
  refine ⟨r, w', ?_⟩
  unfold take
  rw [hattr, ActOn.bind_lift_of_ok (Act.look_ok _ _), hnumber,
    ActOn.bind_lift_of_ok (Act.ofExcept_ok _ _), ActOn.bind_of_ok (ActOn.silent_apply _ _ _ _),
    hneeded, ActOn.bind_lift_of_ok (Act.look_ok _ _), ActOn.bind_of_ok (ActOn.note_apply _ _ _ _)]
  exact ActOn.lift_of_eq hwork

/-- A walk comes to some of the tweets, in its order, and if there are any at least to the first. -/
theorem forM_take {tweets : List Json} (h : ∀ t ∈ tweets, p.Ready t) (cursor : Option Int)
    (notes : List Note) (w : World) :
    ∃ reached rest, tweets = reached ++ rest ∧ (reached = [] → rest = []) ∧
      (tweets.forM p.take (cursor, notes) w).1.2 =
        (walkEnd cursor reached, notes ++ walkNotes cursor reached) := by
  induction tweets generalizing cursor notes w with
  | nil => exact ⟨[], [], rfl, fun _ => rfl, by rw [walkNotes, List.append_nil]; rfl⟩
  | cons tweet tweets ih =>
      obtain ⟨r, w', htake⟩ := take_of_ready (h tweet List.mem_cons_self) cursor notes w
      unfold List.forM
      cases r with
      | error e =>
          refine ⟨[tweet], tweets, rfl, nofun, ?_⟩
          rw [ActOn.bind_of_error htake]
          rfl
      | ok _ =>
          obtain ⟨reached, rest, htweets, -, hstate⟩ :=
            ih (fun t ht => h t (List.mem_cons_of_mem tweet ht)) (passed cursor tweet)
              (notes ++ [⟨passed cursor tweet, .taken tweet⟩]) w'
          refine ⟨tweet :: reached, rest, by rw [htweets]; rfl, nofun, ?_⟩
          rw [ActOn.bind_of_ok htake, hstate, List.append_assoc]
          rfl

/-- Asking fails, or the answer is noted. -/
theorem ask_cases (cursor : Option Int) (notes : List Note) (w : World) :
    (∃ e w', p.ask cursor (cursor, notes) w = ((.error e, (cursor, notes)), w')) ∨
      ∃ user data w', p.ask cursor (cursor, notes) w =
        ((.ok data, (cursor, notes ++ [⟨cursor, .answered (p.call user cursor) data⟩])), w') := by
  unfold ask
  have henv : Act.getEnv "TWITTER_USER_ID" w =
      (.ok (Fields.get? w.environment "TWITTER_USER_ID"), w) := rfl
  rw [ActOn.bind_lift_of_ok henv]
  generalize Fields.get? w.environment "TWITTER_USER_ID" = user
  rcases hcall : Act.twitter (p.call user cursor) w with ⟨r, w'⟩
  cases r with
  | error e => exact .inl ⟨e, w', ActOn.bind_lift_of_error hcall⟩
  | ok answer =>
      refine .inr ⟨user, answer.1, w', ?_⟩
      rw [ActOn.bind_lift_of_ok hcall]
      rfl

/-- A poll gets no answer, or it walks over the tweets of one. -/
theorem poll_cases (cursor : Option Int) (notes : List Note) (w : World) :
    (p.poll (cursor, notes) w).1.2 = (cursor, notes ++ [⟨cursor, .polled⟩]) ∨
      ∃ user data w', (p.poll (cursor, notes) w).1.2 =
        (p.walk data (cursor, notes ++ [⟨cursor, .polled⟩] ++
          [⟨cursor, .answered (p.call user cursor) data⟩]) w').1.2 := by
  have hget : (ActOn.silent get : ActOn (Option Int × List Note) (Option Int))
      (cursor, notes ++ [⟨cursor, .polled⟩]) w =
        ((.ok cursor, (cursor, notes ++ [⟨cursor, .polled⟩])), w) := rfl
  unfold poll
  rw [ActOn.recover_state fun f s w => ActOn.bind_state (fun _ _ _ => rfl) s w,
    ActOn.bind_of_ok (ActOn.note_apply _ _ _ _), ActOn.bind_of_ok hget]
  obtain ⟨e, w', hask⟩ | ⟨user, data, w', hask⟩ :=
    ask_cases (p := p) cursor (notes ++ [⟨cursor, .polled⟩]) w
  · exact .inl (by rw [ActOn.bind_of_error hask])
  · refine .inr ⟨user, data, w', ?_⟩
    rw [ActOn.bind_of_ok hask, ActOn.bind_state fun _ _ _ => rfl]

theorem exists_noted_walk (data : Json) : ∃ y, ActOn.Noted (p.walk data) y := by
  have htake : ∀ tweet, ∃ y, ActOn.Noted (p.take tweet) y := fun tweet =>
    ⟨_, .bind (.lift _) fun id => .bind (.lift _) fun number => .bind (.silent _) fun _ =>
      .bind (.lift _) fun needed => .note_bind (.lift _) _⟩
  choose take htake using htake
  unfold walk
  split
  · exact ⟨_, .bind (.lift _) fun tweets => .forM htake tweets⟩
  · exact ⟨_, .pure _⟩

/-- Asking takes a note of what the service answered. -/
theorem noted_ask (cursor : Option Int) :
    ActOn.Noted (p.ask cursor) (liftM (mentionsSince cursor p.fields)) := by
  unfold ask mentionsSince
  rw [ActOn.lift_bind]
  refine .bind (.lift _) fun user => ?_
  rw [ActOn.lift_bind]
  exact .bind (.lift _) fun answer => .note_bind (.pure _) _

end Poller

/-! ## Feeds -/

/-- The number above which a call asks for tweets. -/
def sinceOf : Call → Option Int
  | .getMentions _ named => Mention.TwitterInbox.sinceOf named
  | _ => none

/-- The cursor is what the tweets are asked for above. -/
theorem Poller.sinceOf_call (p : Poller) (user : Option String) (cursor : Option Int) :
    sinceOf (p.call user cursor) = cursor := by
  cases cursor with
  | none => rfl
  | some n => rfl

/-- The tweets that have appeared when a run has taken so many notes. Their numbers grow. -/
structure Feed (timeline : Nat → List Json) : Prop where
  grows : ∀ {i j : Nat}, i ≤ j → timeline i <+: timeline j
  increasing : ∀ i, (timeline i).Pairwise fun a b => numberOf a < numberOf b
  numbered : ∀ i, ∀ x ∈ timeline i, Numbered x

/-- Each answer lists the tweets above the number asked for that have appeared, the newest first. -/
def Served (timeline : Nat → List Json) (notes : List Note) : Prop :=
  ∀ (i : Nat) cursor call data, notes[i]? = some ⟨cursor, .answered call data⟩ →
    Mention.TwitterInbox.Lists (newestFirst (timeline i) (sinceOf call)) data

theorem Served.mono {timeline : Nat → List Json} {notes notes' : List Note}
    (h : Served timeline notes') (hle : notes <+: notes') : Served timeline notes := by
  intro i cursor call data hi
  obtain ⟨later, rfl⟩ := hle
  have hlt := (List.getElem?_eq_some_iff.mp hi).1
  exact h i cursor call data (by rw [List.getElem?_append_left hlt, hi])

/-- Where numbers grow, a tweet appeared before those with greater numbers. -/
theorem Feed.mem_of_le {timeline : Nat → List Json} (h : Feed timeline) {i j : Nat} {x y : Json}
    (hx : x ∈ timeline i) (hy : y ∈ timeline j) (hle : numberOf y ≤ numberOf x) :
    y ∈ timeline i := by
  rcases Nat.le_total j i with hji | hij
  · exact (h.grows hji).subset hy
  · obtain ⟨later, hlater⟩ := h.grows hij
    rw [← hlater, List.mem_append] at hy
    rcases hy with hy | hy
    · exact hy
    · -- what appeared later has a greater number
      have hincreasing := h.increasing j
      rw [← hlater, List.pairwise_append] at hincreasing
      have hless := hincreasing.2.2 x hx y hy
      omega

/-- A tweet with an id and a text. -/
def tweet (id text : String) : Json := .obj [("id", .str id), ("text", .str text)]

/-- Tweets that appear one after the other. -/
theorem Feed.of_take {tweets : List Json}
    (hincreasing : tweets.Pairwise fun a b => numberOf a < numberOf b)
    (hnumbered : ∀ x ∈ tweets, Numbered x) {size : Nat → Nat}
    (hgrows : ∀ {i j : Nat}, i ≤ j → size i ≤ size j) : Feed fun i => tweets.take (size i) where
  grows hij := List.take_prefix_take_left (hgrows hij)
  increasing _ := hincreasing.sublist (List.take_sublist _ _)
  numbered _ x hx := hnumbered x (List.mem_of_mem_take hx)

theorem isAbove_eq_false_iff {c : Option Int} {x : Json} :
    isAbove c x = false ↔ ∃ n, c = some n ∧ numberOf x ≤ n := by
  cases c with
  | none => simp [isAbove]
  | some n => simp [isAbove]

/-- The tweets that data lists. -/
def listed : Json → List Json
  | .arr tweets => tweets
  | _ => []

theorem mem_listed {batch : List Json} {data : Json}
    (h : Mention.TwitterInbox.Lists batch data) {x : Json} : x ∈ listed data ↔ x ∈ batch := by
  rcases h with rfl | ⟨rfl, rfl⟩ <;> rfl

theorem mem_newestFirst {items : List Json} {c : Option Int} {x : Json} :
    x ∈ newestFirst items c ↔ x ∈ items ∧ isAbove c x = true := by
  rw [newestFirst, List.mem_reverse, List.mem_filter]

/-! ## Runs -/

/-- What holds at the start of each poll, of the cursor and the notes up to there. -/
def AtPolls (P : Option Int → List Note → Prop) (notes : List Note) : Prop :=
  ∀ (j : Nat) c, notes[j]? = some ⟨c, .polled⟩ → P c (notes.take j)

/-- All tweets at or below the cursor have been taken. -/
def Complete (timeline : Nat → List Json) (cursor : Option Int) (notes : List Note) : Prop :=
  ∀ i, ∀ x ∈ timeline i, isAbove cursor x = false → x ∈ taken notes

/-- At the start of each poll, all tweets at or below the cursor have been taken. -/
def NoneSkipped (timeline : Nat → List Json) (notes : List Note) : Prop :=
  AtPolls (Complete timeline) notes

theorem atPolls_concat {P : Option Int → List Note → Prop} {notes : List Note} {n : Note} :
    AtPolls P (notes ++ [n]) ↔ AtPolls P notes ∧ (n.step = .polled → P n.cursor notes) := by
  constructor
  · refine fun h => ⟨fun j c hj => ?_, fun hn => ?_⟩
    · have hlt := (List.getElem?_eq_some_iff.mp hj).1
      have hP := h j c (by rw [List.getElem?_append_left hlt, hj])
      rwa [List.take_append_of_le_length (Nat.le_of_lt hlt)] at hP
    · have hP := h notes.length n.cursor (by rw [List.getElem?_concat_length, ← hn])
      rwa [List.take_left] at hP
  · rintro ⟨hbefore, hlast⟩ j c hj
    rcases Mention.getElem?_concat_cases hj with ⟨hlt, hj⟩ | ⟨rfl, rfl⟩
    · rw [List.take_append_of_le_length (Nat.le_of_lt hlt)]
      exact hbefore j c hj
    · rw [List.take_left]
      exact hlast rfl

/-- The cursors and notes of pollers that walk in an order, as the service answers them. -/
inductive Polls (order : List Json → List Json) (timeline : Nat → List Json) :
    Option Int → List Note → Prop where
  | start : Polls order timeline none []
  | failed {cursor : Option Int} {notes : List Note} :
      Polls order timeline cursor notes →
      Polls order timeline cursor (notes ++ [⟨cursor, .polled⟩])
  | walked {cursor : Option Int} {notes : List Note} {call : Call} {data : Json}
      {reached rest : List Json} :
      Polls order timeline cursor notes → sinceOf call = cursor →
      Mention.TwitterInbox.Lists (newestFirst (timeline (notes.length + 1)) cursor) data →
      order (newestFirst (timeline (notes.length + 1)) cursor) = reached ++ rest →
      (reached = [] → rest = []) →
      Polls order timeline (walkEnd cursor reached) (pollNotes cursor notes call data reached)

namespace Poller

variable {p : Poller} {order : List Json → List Json} {timeline : Nat → List Json}

/-- The walk over what is listed comes to some of the tweets. -/
theorem walk_of_lists (horder : ∀ xs, p.order (.arr xs) = .ok (order xs)) (hnil : order [] = [])
    {batch : List Json} (hready : ∀ t ∈ order batch, p.Ready t) {data : Json}
    (hlists : Mention.TwitterInbox.Lists batch data) (cursor : Option Int) (notes : List Note)
    (w : World) :
    ∃ reached rest, order batch = reached ++ rest ∧ (reached = [] → rest = []) ∧
      (p.walk data (cursor, notes) w).1.2 =
        (walkEnd cursor reached, notes ++ walkNotes cursor reached) := by
  cases batch with
  | nil =>
      refine ⟨[], [], hnil, fun _ => rfl, ?_⟩
      rw [walkNotes, List.append_nil]
      rcases hlists with rfl | ⟨-, rfl⟩ <;> rfl
  | cons t ts =>
      obtain rfl : data = .arr (t :: ts) := by
        rcases hlists with h | ⟨h, -⟩
        · exact h
        · cases h
      have htruthy : (Json.arr (t :: ts)).truthy = true := rfl
      obtain ⟨reached, rest, hbatch, hfirst, hstate⟩ := forM_take hready cursor notes w
      refine ⟨reached, rest, hbatch, hfirst, ?_⟩
      rw [walk, if_pos htruthy, horder, ActOn.bind_lift_of_ok (Act.look_ok _ _), hstate]

theorem polls_of_poll (horder : ∀ xs, p.order (.arr xs) = .ok (order xs))
    (hsubset : ∀ xs, order xs ⊆ xs) (hready : ∀ i, ∀ t ∈ timeline i, p.Ready t)
    {cursor : Option Int} {notes : List Note} (hpolls : Served timeline notes →
      Polls order timeline cursor notes) (w : World)
    (hserved : Served timeline (p.poll (cursor, notes) w).1.2.2) :
    Polls order timeline (p.poll (cursor, notes) w).1.2.1 (p.poll (cursor, notes) w).1.2.2 := by
  obtain hstate | ⟨user, data, w', hstate⟩ := poll_cases (p := p) cursor notes w
  · rw [hstate] at hserved ⊢
    exact .failed (hpolls (hserved.mono (List.prefix_append _ _)))
  · rw [hstate] at hserved ⊢
    obtain ⟨y, hnoted⟩ := exists_noted_walk (p := p) data
    have hanswer := hserved.mono (hnoted.notes_grow _ _ _)
    have hindex : (notes ++ [⟨cursor, .polled⟩] ++
        [⟨cursor, .answered (p.call user cursor) data⟩])[notes.length + 1]? =
          some ⟨cursor, .answered (p.call user cursor) data⟩ := by
      rw [List.getElem?_append_right (by simp)]
      simp
    have hlists := hanswer _ _ _ _ hindex
    rw [sinceOf_call] at hlists
    have hbatch : ∀ t ∈ order (newestFirst (timeline (notes.length + 1)) cursor), p.Ready t := by
      intro t ht
      have hmem := hsubset _ ht
      rw [newestFirst, List.mem_reverse] at hmem
      exact hready _ t (List.mem_filter.mp hmem).1
    obtain ⟨reached, rest, hwalk, hfirst, hend⟩ := walk_of_lists horder
      (List.subset_nil.mp (hsubset [])) hbatch hlists cursor _ w'
    rw [hend]
    have hbefore := hanswer.mono ((List.prefix_append _ _).trans (List.prefix_append _ _))
    exact .walked (hpolls hbefore) (p.sinceOf_call user cursor) hlists hwalk hfirst

/-- The cursor and the notes of a run of polls, if they are answered with what they ask for. -/
theorem polls_of_run (horder : ∀ xs, p.order (.arr xs) = .ok (order xs))
    (hsubset : ∀ xs, order xs ⊆ xs) (hready : ∀ i, ∀ t ∈ timeline i, p.Ready t) (rounds : Nat)
    (w : World) (hserved : Served timeline (p.poll.forever rounds (none, []) w).1.2.2) :
    Polls order timeline (p.poll.forever rounds (none, []) w).1.2.1
      (p.poll.forever rounds (none, []) w).1.2.2 := by
  have hrun := ActOn.forever_induction (x := p.poll) (s := (none, [])) (w := w)
    (I := fun s _ => Served timeline s.2 → Polls order timeline s.1 s.2)
    (fun s w hs => polls_of_poll horder hsubset hready hs w) rounds fun _ => .start
  exact hrun hserved

end Poller

end Persona.Twitter
