import Persona.Mention.Watch
import Persona.Proofs.Mention.Checks
import Persona.Proofs.Mention.Delivery
import Persona.Proofs.Psyche.Sound

/-!
# Who is replied to

The loop keeps one table of the times at which authors were replied to, for all platforms. The table
tells of each author the last reply that was asked for, so the decision about a mention depends on
its author, the time and that reply alone.

The loop reaches the platforms through a port; the law holds for every port whose replies come to an
end, and those of the platforms themselves do.

Main statement: `replies_rate_limited`.
-/

namespace Persona.Mention

open ActOn (Ends)

/-! ## Decisions -/

/-- A mention about which the loop has decided. -/
structure Decision where
  mention : Json
  author : String
  time : Moment
  /-- A reply was asked for. -/
  replied : Bool

/-- When a reply to an author was last asked for. -/
def lastReply (author : String) (past : List Decision) : Option Moment :=
  (past.filter fun d => d.replied && d.author == author).getLast?.map (·.time)

/-- A reply is asked for if the author is none of the agent's own accounts and no reply to the same
author was asked for less than five minutes before. -/
def RateLimited (past : List Decision) : Prop :=
  ∀ (i : Nat) d, past[i]? = some d →
    (d.replied = true ↔ Text.lower d.author ∉ ["phi_lang", "phi_autonomous", "phi"] ∧
      ∀ t, lastReply d.author (past.take i) = some t →
        300 * Moment.perSecond ≤ (Span.since d.time t).micros)

theorem lastReply_concat (author : String) (past : List Decision) (d : Decision) :
    lastReply author (past ++ [d]) =
      if d.replied = true ∧ d.author = author then some d.time else lastReply author past := by
  unfold lastReply
  rw [List.filter_append]
  split
  · next h =>
    rw [List.filter_cons_of_pos (by simp [h])]
    simp
  · next h =>
    rw [List.filter_cons_of_neg (by simpa using h)]
    simp

theorem rateLimited_concat {past : List Decision} {d : Decision} (h : RateLimited past)
    (hd : d.replied = true ↔ Text.lower d.author ∉ ["phi_lang", "phi_autonomous", "phi"] ∧
      ∀ t, lastReply d.author past = some t →
        300 * Moment.perSecond ≤ (Span.since d.time t).micros) : RateLimited (past ++ [d]) := by
  intro i d' hi
  rcases getElem?_concat_cases hi with ⟨hlt, hi⟩ | ⟨rfl, rfl⟩
  · rw [List.take_append_of_le_length (Nat.le_of_lt hlt)]
    exact h i d' hi
  · rw [List.take_left]
    exact hd

/-- A table tells the last replies of some decisions, and those keep the limit. -/
structure Remembers (answered : List (String × Moment)) (past : List Decision) : Prop where
  table : ∀ author, Fields.get? answered author = lastReply author past
  limited : RateLimited past

namespace Remembers

variable {r : Responder} {past : List Decision}

theorem start : Remembers [] [] where
  table _ := rfl
  limited i d hi := by cases hi

/-- What the responder grants is what the limit allows. -/
theorem grant_iff (h : Remembers r.answered past) (author : String) (now : Moment) :
    (r.grant author now).1 = true ↔ Text.lower author ∉ ["phi_lang", "phi_autonomous", "phi"] ∧
      ∀ t, lastReply author past = some t → 300 * Moment.perSecond ≤ (Span.since now t).micros := by
  have hown : Responder.isOwn author = false ↔
      Text.lower author ∉ ["phi_lang", "phi_autonomous", "phi"] := by
    rw [Responder.isOwn, ← Bool.not_eq_true, List.contains_iff_mem]
    rfl
  have hrecent : r.isRecent author now = false ↔ ∀ t, lastReply author past = some t →
      300 * Moment.perSecond ≤ (Span.since now t).micros := by
    unfold Responder.isRecent
    rw [h.table]
    cases lastReply author past with
    | none => simp
    | some t =>
        simp only [Option.some.injEq, forall_eq']
        rw [decide_eq_false_iff_not, Int.not_lt]
        rfl
  rw [← hown, ← hrecent, ← Bool.or_eq_false_iff]
  unfold Responder.grant
  split
  · next hrefused => simp [hrefused]
  · next hgranted => simpa using hgranted

theorem grant (h : Remembers r.answered past) {d : Decision}
    (hd : d.replied = (r.grant d.author d.time).1) :
    Remembers (r.grant d.author d.time).2.answered (past ++ [d]) where
  table author := by
    rw [lastReply_concat, ← h.table author, hd]
    unfold Responder.grant
    split
    · simp
    · simp only [Fields.get?_put, true_and]
  limited := rateLimited_concat h.limited (by rw [hd]; exact h.grant_iff d.author d.time)

end Remembers

/-! ## The loop with notes -/

inductive Deed where
  /-- A check gave mentions. -/
  | given (mentions : List Json)
  /-- The loop decided about a mention. The time is that of the call for a reply, if there is
  one. -/
  | decided (d : Decision)

/-- The mentions that the checks gave. -/
def givenMentions (deeds : List Deed) : List Json :=
  deeds.flatMap fun
    | .given mentions => mentions
    | .decided _ => []

def decisions (deeds : List Deed) : List Decision :=
  deeds.filterMap fun
    | .given _ => none
    | .decided d => some d

namespace Desk

/-- Answering with notes. -/
def answerNoting (port : Port) (mention : Json) : ActOn (Desk × List Deed) Unit := do
  let s : Desk ← ActOn.silent get
  let now ← (Act.now : Act Moment)
  let tag := "  [" ++ s.inbox.name ++ "] "
  let look {α : Type} (e : Except Mismatch α) : ActOn (Desk × List Deed) α := (Act.look e : Act α)
  let author ← look (mention.fieldOr "author" (.str "unknown"))
  let text ← look (mention.fieldOr "text" (.str ""))
  let author ← look (author.asText "lower")
  let (granted, responder) := s.responder.grant author now
  ActOn.silent (set { s with responder })
  if granted then
    let text ← look (text.asText "lower")
    let response ← ActOn.silent ((Responder.compose text).within (·.responder)
      fun responder s => { s with responder })
    ActOn.note fun _ w => .decided ⟨mention, author, w.clock, true⟩
    let (result, inbox) ← (port.reply mention response s.inbox : Act (Json × Inbox))
    ActOn.silent (modify fun (s : Desk) => { s with inbox })
    if result.truthy then
      (Act.print (tag ++ "Replied to @" ++ author ++ ": " ++ result.text) : Act Unit)
    else (Act.print (tag ++ "Failed to reply to @" ++ author) : Act Unit)
  else
    ActOn.note fun _ w => .decided ⟨mention, author, w.clock, false⟩
    (Act.print (tag ++ "Skipping (rate limit): @" ++ author) : Act Unit)

theorem noted_answer (port : Port) (mention : Json) :
    ActOn.Noted (answerNoting port mention) (answer port mention) := by
  unfold answerNoting answer
  refine .bind (.silent _) fun s => .bind (.lift _) fun now => .bind (.lift _) fun author =>
    .bind (.lift _) fun text => .bind (.lift _) fun author => ?_
  cases s.responder.grant author now with
  | mk granted responder =>
    refine .bind (.silent _) fun _ => ?_
    cases granted with
    | true =>
        refine .bind (.lift _) fun text => .bind (.silent _) fun response => .note_bind ?_ _
        refine .bind (.lift _) fun answer => .bind (.silent _) fun _ => ?_
        split
        · exact .lift _
        · exact .lift _
    | false => exact .note_bind (.lift _) _

/-- Looking into the inbox with notes. -/
def visitNoting (port : Port) : ActOn (Desk × List Deed) Unit :=
  recover (do
    let s : Desk ← ActOn.silent get
    let (mentions, inbox) ← (port.check s.inbox : Act (List Json × Inbox))
    ActOn.note fun _ _ => .given mentions
    ActOn.silent (set { s with inbox })
    mentions.forM (answerNoting port)) fun f => do
      let s : Desk ← ActOn.silent get
      (Act.print ("  [" ++ s.inbox.name ++ "] Error: " ++ f.message) : Act Unit)

theorem noted_visit (port : Port) : ActOn.Noted (visitNoting port) (visit port) := by
  unfold visitNoting visit
  refine .recover (.bind (.silent _) fun s => .bind (.lift _) fun found => .note_bind ?_ _) fun f =>
    .bind (.silent _) fun s => .lift _
  exact .bind (.silent _) fun _ => .forM (noted_answer port) found.1

end Desk

/-- Visiting the inboxes with notes. -/
def visitAllNoting (port : Port) (responder : Responder) :
    List Inbox → ActOn (List Deed) (Responder × List Inbox)
  | [] => return (responder, [])
  | inbox :: rest => do
    let (_, desk) ← (Desk.visitNoting port).noting ⟨responder, inbox⟩
    let (responder, rest) ← visitAllNoting port desk.responder rest
    return (responder, desk.inbox :: rest)

theorem noted_visitAll (port : Port) (responder : Responder) (inboxes : List Inbox) :
    Act.Noted (visitAllNoting port responder inboxes) (visitAll port responder inboxes) := by
  induction inboxes generalizing responder with
  | nil => exact .pure _
  | cons inbox rest ih =>
      exact .bind (.noting (Desk.noted_visit port) _) fun visited =>
        .bind (ih visited.2.responder) fun _ => .pure _

/-- A round with notes. -/
def watchRoundNoting (port : Port) (s : Responder × List Inbox) :
    ActOn (List Deed) (Option (Responder × List Inbox)) := do
  if ← (Act.fileExists Act.killSwitch : Act Bool) then
    let now ← (Act.now : Act Moment)
    (Act.print ("[" ++ now.text ++ "] kill.switch detected. Halting.") : Act Unit)
    return none
  else
    let s ← visitAllNoting port s.1 s.2
    (Act.sleep (.whole 120) : Act Unit)
    return some s

theorem noted_watchRound (port : Port) (s : Responder × List Inbox) :
    Act.Noted (watchRoundNoting port s) (watchRound port s) := by
  unfold watchRoundNoting watchRound
  refine .bind (.lift _) fun killed => ?_
  cases killed with
  | true => exact .bind (.lift _) fun now => .bind (.lift _) fun _ => .pure _
  | false => exact .bind (noted_visitAll port s.1 s.2) fun s => .bind (.lift _) fun _ => .pure _

/-- Watching with notes. -/
def watchNoting (port : Port) (hasPsyche : Bool) : ActOn (List Deed) Unit := do
  let started ← (Act.now : Act Moment)
  (Act.print ("[" ++ started.text ++ "] @phi mention responder started") : Act Unit)
  (Act.print "Touch 'kill.switch' to stop" : Act Unit)
  let born ← (Act.now : Act Moment)
  let responder := Responder.new hasPsyche born
  let inboxes ← (openInboxes : Act (List Inbox))
  if inboxes.isEmpty then
    (Act.print "No platforms configured! Set API keys in .env" : Act Unit)
  else
    if hasPsyche then
      let now ← (Act.now : Act Moment)
      let phase := Psyche.Phase.ofMoment now
      (Act.print ("  Soul active: " ++ phase.name ++ " (" ++ phase.quality.name ++ "), energy: " ++
        Number.percent 0 phase.energy) : Act Unit)
    (Act.print "" : Act Unit)
    let left ← (Act.sleepsLeft : Act Nat)
    ActOn.rounds (watchRoundNoting port) left (responder, inboxes)

theorem noted_watch (port : Port) (hasPsyche : Bool) :
    Act.Noted (watchNoting port hasPsyche) (watch port hasPsyche) := by
  unfold watchNoting watch
  refine .bind (.lift _) fun started => .bind (.lift _) fun _ => .bind (.lift _) fun _ =>
    .bind (.lift _) fun born => .bind (.lift _) fun inboxes => ?_
  split
  · exact .lift _
  · cases hasPsyche with
    | true =>
        refine .bind (.lift _) fun now => .bind (.lift _) fun _ => .bind (.lift _) fun _ => ?_
        exact .bind (.lift _) fun left => .rounds (noted_watchRound port) left _
    | false =>
        refine .bind (.lift _) fun _ => .bind (.lift _) fun left => ?_
        exact .rounds (noted_watchRound port) left _

/-! ## Replies come to an end -/

/-- Every reply comes to an end, whatever its outcome. -/
def Port.Replies (port : Port) : Prop :=
  ∀ mention text inbox w, ∃ result w', port.reply mention text inbox w = (.ok result, w')

theorem asking_address (mention : Json) (text : String) (size : Nat) :
    Act.Asking (address mention text size) := .bind (.look _) fun _ => .pure _

theorem TwitterInbox.reply_ok (mention : Json) (text : String) (w : World) :
    ∃ result w', reply mention text w = (.ok result, w') := by
  obtain ⟨trace, hconnect, -, -⟩ := connect_apply w
  rw [reply, Act.bind_of_ok hconnect]
  cases canConnect w with
  | false => exact ⟨_, _, rfl⟩
  | true =>
      refine Act.Recoverable.exists_ok_of_recover ?_ (fun f w => ⟨_, _, rfl⟩) _
      have hpost : ∀ text id, Act.Asking (Twitter.post text id) := fun text id =>
        .bind (.twitter _) fun answer => .look _
      exact (Act.Asking.bind (asking_address _ _ _) fun text => .bind (.look _) fun id =>
        .bind (hpost _ _) fun url => .pure _).recoverable

theorem MastodonInbox.reply_ok (server : String) (mention : Json) (text : String) (w : World) :
    ∃ result w', reply server mention text w = (.ok result, w') := by
  obtain ⟨header, hheaders, -⟩ := headers_apply w
  rw [reply, Act.bind_of_ok hheaders]
  cases header with
  | none => exact ⟨_, _, rfl⟩
  | some headers =>
      refine Act.Recoverable.exists_ok_of_recover ?_ (fun f w => ⟨_, _, rfl⟩) _
      apply Act.Asking.recoverable
      refine .bind (asking_address _ _ _) fun text => .bind (.look _) fun id => ?_
      refine .bind (.look _) fun visibility => .bind (.http _) fun reply => .ite ?_ (.pure _)
      exact .bind (.body reply) fun body => .look _

theorem BlueskyInbox.asking_replyAs (session mention : Json) (text : String) :
    Act.Asking (replyAs session mention text) := by
  have hnow : Act.Asking Act.now := ⟨fun _ => rfl, fun w w' e h => by cases h⟩
  have hpost : ∀ record, Act.Asking (Bluesky.createPost session record) := fun record =>
    .bind (.bind (.look _) fun token => .pure _) fun headers => .bind (.look _) fun repo => .http _
  refine .bind (asking_address _ _ _) fun text => .bind (.look _) fun uri => ?_
  refine .bind (.look _) fun cid => .bind (.bind hnow fun now => .pure _) fun time => ?_
  exact .bind (hpost _) fun reply => .pure _

theorem BlueskyInbox.reply_ok (s : BlueskyInbox) (mention : Json) (text : String) (w : World) :
    ∃ result w', (reply mention text).runFrom s w = (.ok result, w') := by
  obtain ⟨session, w₁, hsession, -⟩ := ensureSession_apply s w
  suffices h : ∃ result s' w', reply mention text s w = ((.ok result, s'), w') by
    obtain ⟨result, s', w', h⟩ := h
    exact ⟨(result, s'), w', by simp only [ActOn.runFrom, h]; rfl⟩
  rw [reply, ActOn.bind_of_ok hsession]
  cases session.truthy with
  | false => exact ⟨_, _, _, rfl⟩
  | true =>
      rw [if_pos rfl, ActOn.bind_of_ok (ActOn.get_apply _ _)]
      rcases hrun : replyAs session mention text w₁ with ⟨r, w₂⟩
      cases r with
      | ok result => exact ⟨_, _, _, ActOn.recover_of_ok (ActOn.lift_of_eq hrun)⟩
      | error f =>
          have hfailure := (asking_replyAs session mention text).recoverable _ _ _ hrun
          rw [ActOn.recover_of_failure (ActOn.lift_of_eq hrun) hfailure]
          exact ⟨_, _, _, rfl⟩

/-- The replies of the platforms come to an end: failures are reported. -/
theorem Port.platforms_replies : Port.platforms.Replies := by
  intro mention text inbox w
  cases inbox with
  | twitter s =>
      obtain ⟨result, w', h⟩ := TwitterInbox.reply_ok mention text w
      exact ⟨_, w', Act.bind_of_ok h⟩
  | mastodon s =>
      obtain ⟨result, w', h⟩ := MastodonInbox.reply_ok s.server mention text w
      exact ⟨_, w', Act.bind_of_ok h⟩
  | bluesky s =>
      obtain ⟨result, w', h⟩ := BlueskyInbox.reply_ok s mention text w
      exact ⟨_, w', Act.bind_of_ok h⟩

/-! ## Every mention is decided about -/

/-- A field is a text. -/
def isText : Except Mismatch Json → Bool
  | .ok (.str _) => true
  | _ => false

theorem exists_of_isText {field : Except Mismatch Json} (h : isText field = true) :
    ∃ text, field = .ok (.str text) := by
  unfold isText at h
  split at h
  · exact ⟨_, rfl⟩
  · cases h

/-- A mention whose author and text are texts. -/
def Plain (mention : Json) : Prop :=
  isText (mention.fieldOr "author" (.str "unknown")) = true ∧
    isText (mention.fieldOr "text" (.str "")) = true

instance (mention : Json) : Decidable (Plain mention) := inferInstanceAs (Decidable (_ ∧ _))

/-- What the loop keeps while some mentions are left to decide about. -/
structure Kept (r : Responder) (deeds : List Deed) (left : List Json) : Prop where
  sound : r.Sound
  remembers : Remembers r.answered (decisions deeds)
  authors : ∀ d ∈ decisions deeds,
    d.mention.fieldOr "author" (.str "unknown") = .ok (.str d.author)
  each : givenMentions deeds = (decisions deeds).map (·.mention) ++ left

theorem decisions_concat (deeds : List Deed) (d : Decision) :
    decisions (deeds ++ [.decided d]) = decisions deeds ++ [d] := List.filterMap_append

theorem givenMentions_concat (deeds : List Deed) (d : Decision) :
    givenMentions (deeds ++ [.decided d]) = givenMentions deeds := by
  rw [givenMentions, List.flatMap_append]
  exact List.append_nil _

theorem Kept.decide {r r' : Responder} {deeds : List Deed} {m : Json} {left : List Json}
    (h : Kept r deeds (m :: left)) {author : String} {now : Moment} (hsound : r'.Sound)
    (htable : r'.answered = (r.grant author now).2.answered)
    (hauthor : m.fieldOr "author" (.str "unknown") = .ok (.str author)) :
    Kept r' (deeds ++ [.decided ⟨m, author, now, (r.grant author now).1⟩]) left where
  sound := hsound
  remembers := by
    rw [decisions_concat, htable]
    exact h.remembers.grant (d := ⟨m, author, now, (r.grant author now).1⟩) rfl
  authors := by
    rw [decisions_concat, List.forall_mem_append, List.forall_mem_singleton]
    exact ⟨h.authors, hauthor⟩
  each := by
    rw [givenMentions_concat, decisions_concat, List.map_append, List.append_assoc]
    exact h.each

theorem Responder.Sound.grant {r : Responder} (h : r.Sound) (author : String) (now : Moment) :
    (r.grant author now).2.Sound := by
  unfold Responder.grant
  split
  · exact h
  · exact h

theorem answer_ends {port : Port} (hport : port.Replies) {desk : Desk} {deeds : List Deed}
    {m : Json} {left : List Json} (hm : Plain m) (h : Kept desk.responder deeds (m :: left))
    (w : World) : Ends (Desk.answerNoting port m) (desk, deeds) w
      (fun _ s _ => Kept s.1.responder s.2 left) fun _ _ _ => False := by
  obtain ⟨author, hauthor⟩ := exists_of_isText hm.1
  obtain ⟨text, htext⟩ := exists_of_isText hm.2
  unfold Desk.answerNoting
  rw [hauthor, htext]
  refine .step rfl (.step rfl (.step rfl (.step rfl (.step rfl ?_))))
  dsimp only
  have hnext := fun {r : Responder} (hsound : r.Sound)
    (htable : r.answered = (desk.responder.grant author w.clock).2.answered) =>
      h.decide hsound htable hauthor
  have hmood : (desk.responder.grant author w.clock).2.Sound := h.sound.grant author w.clock
  rcases hgrant : desk.responder.grant author w.clock with ⟨granted, responder⟩
  rw [hgrant] at hnext hmood
  refine .step rfl ?_
  cases granted with
  | false => exact .step rfl (.of_ok rfl (hnext hmood rfl))
  | true =>
      have hcompose : ActOn.Smooth (fun d : Desk => d.responder.Sound ∧
          d.responder.answered = responder.answered)
          ((Responder.compose text).within (·.responder) fun responder s => { s with responder }) :=
        .within (Responder.smooth_compose responder.answered text) (fun _ hd => hd)
          fun _ _ hr _ => hr
      refine .step rfl (.bind (.silent ?_))
      refine (hcompose _ w ⟨hmood, rfl⟩).mono (fun response desk' w' hdesk => ?_) fun _ _ _ h => h
      obtain ⟨⟨hsound, htable⟩, hclock⟩ := hdesk
      obtain ⟨result, w'', hreply⟩ := hport m response desk.inbox w'
      refine .step rfl (.step (ActOn.lift_of_eq hreply) (.step rfl ?_))
      have hkept := hnext hsound htable
      rw [← hclock] at hkept
      split
      · exact .of_ok rfl hkept
      · exact .of_ok rfl hkept

theorem forM_answer_ends {port : Port} (hport : port.Replies) (desk : Desk) {deeds : List Deed}
    {mentions : List Json} (hplain : ∀ m ∈ mentions, Plain m)
    (h : Kept desk.responder deeds mentions) (w : World) :
    Ends (mentions.forM (Desk.answerNoting port)) (desk, deeds) w
      (fun _ s _ => Kept s.1.responder s.2 []) fun _ _ _ => False := by
  induction mentions generalizing desk deeds w with
  | nil => exact .of_ok rfl h
  | cons m rest ih =>
      obtain ⟨hm, hrest⟩ := List.forall_mem_cons.mp hplain
      exact (answer_ends hport hm h w).andThen fun _ s w' hs => ih s.1 hrest hs w'

/-- What the loop keeps between two visits, if all mentions were plain. -/
def Keeps (r : Responder) (deeds : List Deed) : Prop :=
  (∀ m ∈ givenMentions deeds, Plain m) → Kept r deeds []

/-- There is a responder that fits what has happened. -/
def Lawful (deeds : List Deed) : Prop := ∃ r, Keeps r deeds

theorem visit_ends {port : Port} (hport : port.Replies) (desk : Desk) {deeds : List Deed}
    (h : Keeps desk.responder deeds) (w : World) :
    Ends (Desk.visitNoting port) (desk, deeds) w (fun _ s _ => Keeps s.1.responder s.2)
      fun _ s _ => Keeps s.1.responder s.2 := by
  unfold Desk.visitNoting
  refine .recover ?_ fun f s w hs => .step rfl (.of_ok rfl hs)
  refine .step rfl (.bind (.lift (fun found w => ?_) fun _ _ => h))
  refine .step rfl (.step rfl ?_)
  have hgiven : givenMentions (deeds ++ [.given found.1]) = givenMentions deeds ++ found.1 := by
    rw [givenMentions, List.flatMap_append]
    simp [givenMentions]
  have hdecisions : decisions (deeds ++ [.given found.1]) = decisions deeds := by
    rw [decisions, List.filterMap_append]
    exact List.append_nil _
  by_cases hplain : ∀ m ∈ givenMentions (deeds ++ [.given found.1]), Plain m
  · rw [hgiven, List.forall_mem_append] at hplain
    have hkept := h hplain.1
    have hopen : Kept desk.responder (deeds ++ [.given found.1]) found.1 := by
      refine ⟨hkept.sound, ?_, ?_, ?_⟩
      · rw [hdecisions]
        exact hkept.remembers
      · rw [hdecisions]
        exact hkept.authors
      · rw [hgiven, hdecisions, hkept.each, List.append_nil]
    have hrun := forM_answer_ends hport ⟨desk.responder, found.2⟩ hplain.2 hopen w
    exact hrun.mono (fun _ _ _ hs _ => hs) fun _ _ _ h => h.elim
  · -- a mention that is not plain stays among those given
    refine Ends.state_iff.mpr fun hall => absurd (fun m hm => hall m ?_) hplain
    obtain ⟨added, hadded⟩ := (ActOn.Noted.forM (Desk.noted_answer port) found.1).notes_grow
      (⟨desk.responder, found.2⟩ : Desk) (deeds ++ [.given found.1]) w
    rw [← hadded, givenMentions, List.flatMap_append]
    exact List.mem_append_left _ hm

theorem visitAll_ends {port : Port} (hport : port.Replies) {r : Responder} {deeds : List Deed}
    (h : Keeps r deeds) (inboxes : List Inbox) (w : World) :
    Ends (visitAllNoting port r inboxes) deeds w (fun visited deeds' _ => Keeps visited.1 deeds')
      fun _ deeds' _ => Lawful deeds' := by
  induction inboxes generalizing r deeds w with
  | nil => exact .of_ok rfl h
  | cons inbox rest ih =>
      have hvisit : Ends ((Desk.visitNoting port).noting ⟨r, inbox⟩) deeds w
          (fun visited deeds' _ => Keeps visited.2.responder deeds') fun _ deeds' _ =>
            Lawful deeds' :=
        .noting ((visit_ends hport ⟨r, inbox⟩ h w).mono (fun _ _ _ hs => hs) fun _ s _ hs =>
          ⟨s.1.responder, hs⟩)
      refine hvisit.andThen fun visited deeds' w' hs => ?_
      exact (ih hs w').andThen fun _ _ _ hr => .of_ok rfl hr

theorem watchRound_ends {port : Port} (hport : port.Replies) (s : Responder × List Inbox)
    (deeds : List Deed) (w : World) (h : Keeps s.1 deeds) :
    Ends (watchRoundNoting port s) deeds w
      (Ends.next (fun s' deeds' _ => Keeps s'.1 deeds') fun deeds' _ => Lawful deeds')
      fun _ deeds' _ => Lawful deeds' := by
  unfold watchRoundNoting
  refine .bind (.lift (fun killed w => ?_) fun _ _ => ⟨_, h⟩)
  cases killed with
  | true => exact .step rfl (.step rfl (.of_ok rfl ⟨_, h⟩))
  | false =>
      refine (visitAll_ends hport h s.2 w).andThen fun s' deeds' w hs => ?_
      exact .bind (.lift (fun _ w => .of_ok rfl hs) fun _ _ => ⟨_, hs⟩)

theorem lawful_rounds {port : Port} (hport : port.Replies) {s : Responder × List Inbox}
    (h : Keeps s.1 []) (n : Nat) (w : World) :
    Lawful ((ActOn.rounds (watchRoundNoting port) n s).notes w) := by
  have hend : Ends (ActOn.rounds (watchRoundNoting port) n s) [] w (fun _ deeds _ => Lawful deeds)
      fun _ deeds _ => Lawful deeds :=
    .rounds (I := fun s deeds _ => Keeps s.1 deeds) (watchRound_ends hport)
      (fun _ _ _ _ h => ⟨_, h⟩) n h
  exact Ends.state_iff.mp hend

theorem lawful_watch {port : Port} (hport : port.Replies) (hasPsyche : Bool) (w : World) :
    Lawful ((watchNoting port hasPsyche).notes w) := by
  have hnew : ∀ now, Keeps (.new hasPsyche now) [] := fun now _ =>
    ⟨Responder.sound_new hasPsyche now, .start, fun d hd => (nomatch hd), rfl⟩
  have hnil : Lawful [] := ⟨_, hnew w.clock⟩
  unfold watchNoting
  refine ActOn.notes_lift_bind hnil _ (fun started w => ?_) w
  refine ActOn.notes_lift_bind hnil _ (fun _ w => ?_) w
  refine ActOn.notes_lift_bind hnil _ (fun _ w => ?_) w
  refine ActOn.notes_lift_bind hnil _ (fun born w => ?_) w
  refine ActOn.notes_lift_bind hnil _ (fun inboxes w => ?_) w
  split
  · exact hnil
  · cases hasPsyche with
    | true =>
        refine ActOn.notes_lift_bind hnil _ (fun now w => ?_) w
        refine ActOn.notes_lift_bind hnil _ (fun _ w => ?_) w
        refine ActOn.notes_lift_bind hnil _ (fun _ w => ?_) w
        exact ActOn.notes_lift_bind hnil _ (fun left w => lawful_rounds hport (hnew born) left w) w
    | false =>
        refine ActOn.notes_lift_bind hnil _ (fun _ w => ?_) w
        exact ActOn.notes_lift_bind hnil _ (fun left w => lawful_rounds hport (hnew born) left w) w

/-- The loop decides about every mention that is given, one after the other, and keeps the limit. -/
structure Decides (deeds : List Deed) : Prop where
  each : (decisions deeds).map (·.mention) = givenMentions deeds
  authors : ∀ d ∈ decisions deeds,
    d.mention.fieldOr "author" (.str "unknown") = .ok (.str d.author)
  limited : RateLimited (decisions deeds)

/-- Whatever the platforms give and however the replies turn out, if the authors and texts of the
mentions are texts, a reply to a mention is asked for exactly if the limit allows it. The same holds
of any other port whose replies come to an end, whatever else it does and however long it takes. -/
theorem replies_rate_limited :
    Port.platforms.Replies ∧ ∀ port : Port, port.Replies → ∀ hasPsyche,
      (watchNoting port hasPsyche).forget = watch port hasPsyche ∧
        ∀ w, (∀ m ∈ givenMentions ((watchNoting port hasPsyche).notes w), Plain m) →
          Decides ((watchNoting port hasPsyche).notes w) := by
  refine ⟨Port.platforms_replies, fun port hport hasPsyche =>
    ⟨(noted_watch port hasPsyche).forget_eq, fun w hplain => ?_⟩⟩
  obtain ⟨r, hkeeps⟩ := lawful_watch hport hasPsyche w
  have hkept := hkeeps hplain
  refine ⟨?_, hkept.authors, hkept.remembers.limited⟩
  rw [hkept.each, List.append_nil]

/-- A notification of a mention. -/
def notification (id author text : String) : Json :=
  .obj [("id", .str id), ("type", .str "mention"), ("account", .obj [("acct", .str author)]),
    ("status", .obj [("id", .str id), ("content", .str text)])]

def notifying (notifications : List Json) : Scripted Http.Reply :=
  .gives { json := some (.arr notifications) }

/-- Ann writes at the start, when the reply fails, again after two minutes, beside Bob, and once
more after six minutes. -/
def persistentReader : World where
  clock := ⟨0⟩
  draws := ⟨[0.5], 0⟩
  environment := [("MASTODON_ACCESS_TOKEN", "secret")]
  http :=
    [notifying [notification "2" "Phi" "hello", notification "1" "ann" "hello"], .fails "refused",
      notifying [notification "4" "bob" "hello", notification "3" "ann" "hello"],
      .gives { json := some (.obj []) }, notifying [],
      notifying [notification "5" "ann" "hello"], .gives { json := some (.obj []) }]
  limits := { sleeps := 4 }

theorem replies_rate_limited_persistentReader :
    (∀ m ∈ givenMentions ((watchNoting .platforms false).notes persistentReader), Plain m) ∧
      (decisions ((watchNoting .platforms false).notes persistentReader)).map
        (fun d => (d.author, d.time.micros, d.replied)) =
          [("Phi", 0, false), ("ann", 0, true), ("bob", 120000000, true),
            ("ann", 120000000, false), ("ann", 360000000, true)] ∧
      Decides ((watchNoting .platforms false).notes persistentReader) := by
  have hall : (givenMentions ((watchNoting .platforms false).notes persistentReader)).all
      (fun m => decide (Plain m)) = true := by
    decide +kernel
  have hplain : ∀ m ∈ givenMentions ((watchNoting .platforms false).notes persistentReader),
      Plain m := fun m hm => of_decide_eq_true (List.all_eq_true.mp hall m hm)
  refine ⟨hplain, by decide +kernel, ?_⟩
  obtain ⟨hreplies, hlaw⟩ := replies_rate_limited
  exact (hlaw .platforms hreplies false).2 persistentReader hplain

end Persona.Mention
