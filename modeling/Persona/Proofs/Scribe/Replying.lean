import Persona.Proofs.Scribe.Tweeting

/-!
# Sizes of replies in the chat

A reply in the chat has room for 2000 characters. The scribe replies in five ways. The reply to an
empty question, the note that a specification is being written and the note that none could be are
short, and an answer in a few words is cut. The reply that shows a publication holds the title, the
summary and the highlights as the model wrote them, and the reply that tells of a fault holds its
message: both are as long as these are.

Main statements: `publish_replies`, `replyWithSpec_fits`, `replies_fit_iff`.
-/

namespace Persona

/-- The reply in the chat that an event is. -/
def Event.reply? : Event → Option Json
  | reply text => some text
  | _ => none

/-- The replies in the chat so far. -/
def World.replies (w : World) : List Json := w.picked Event.reply?

theorem World.replies_record (w : World) (e : Event) :
    (w.record e).replies = w.replies ++ e.reply?.toList :=
  World.picked_record (fun _ => rfl) w e

namespace Scribe

open World (Same)

/-! ## Publishing without replies -/

theorem print_replies (text : String) : (Act.print text).Leads (Same World.replies) :=
  Act.print_picked (fun _ => rfl) text

theorem http_replies (request : Http.Request) : (Act.http request).Leads (Same World.replies) :=
  Act.http_picked (fun _ => rfl) rfl

theorem writeSpec_replies (s : Scribe) (question : Json) :
    (s.writeSpec question).Leads (Same World.replies) :=
  .ite (.recover (.bind (Act.ask_picked (fun _ => rfl) rfl) fun _ => .bind (.ofExcept _) fun _ =>
    .pure _) fun _ => .bind (print_replies _) fun _ => .pure _)
    (.bind (print_replies _) fun _ => .pure _)

theorem keep_replies (spec : Spec) : (keep spec).Leads (Same World.replies) := by
  have hfolders (p : Path) : (Act.makeFolders p).Leads (Same World.replies) := by
    intro w
    rw [Act.makeFolders_apply]
    split <;> rfl
  have hfile (p : Path) (text : String) : (Act.writeFile p text).Leads (Same World.replies) := by
    intro w
    rw [Act.writeFile_apply]
    split <;> rfl
  have hgit (repository : Path) (arguments : List String) :
      (git repository arguments).Leads (Same World.replies) :=
    .bind (Act.execute_picked (fun _ => rfl) rfl) fun _ => .pure _
  exact .bind (.look _) fun _ => .bind (fun _ => rfl) fun _ => .bind (hfolders _) fun _ =>
    .bind (fun _ => rfl) fun _ => .bind (.look _) fun _ => .bind (hfile _ _) fun _ =>
    .bind (print_replies _) fun _ => submit_leads (hgit _) print_replies _ _ _

theorem announceTwitter_replies (s : Scribe) (spec : Spec) (url : String) :
    (s.announceTwitter spec url).Leads (Same World.replies) := by
  have hpost (text : Json) : (Twitter.post text none).Leads (Same World.replies) :=
    .bind (Act.twitter_picked (fun _ => rfl) rfl) fun _ => .look _
  exact .ite (.bind (.look _) fun _ => .recover (.bind (hpost _) fun _ =>
    .bind (print_replies _) fun _ => .pure _) fun _ => .bind (print_replies _) fun _ => .pure _)
    (.bind (print_replies _) fun _ => .pure _)

theorem announceBluesky_replies (s : Scribe) (spec : Spec) (url : String) :
    (s.announceBluesky spec url).Leads (Same World.replies) := by
  have hbody (login : Http.Reply) : (Act.body login).Leads (Same World.replies) := by
    unfold Act.body
    split
    · exact .pure _
    · exact .throw _
  have hcreate (session record : Json) :
      (Bluesky.createPost session record).Leads (Same World.replies) :=
    .bind (.bind (.look _) fun _ => .pure _) fun _ => .bind (.look _) fun _ => http_replies _
  have hafter (login : Http.Reply) : (postAfter login spec url).Leads (Same World.replies) :=
    .bind (Act.requireOk_leads _) fun _ => .bind (hbody _) fun _ => .bind (.look _) fun _ =>
      .bind (fun _ => rfl) fun _ => .bind (hcreate _ _) fun _ => Act.requireOk_leads _
  have hpost : (s.postBluesky spec url).Leads (Same World.replies) :=
    .bind (http_replies _) fun _ => hafter _
  exact .ite (.recover (.bind hpost fun _ => .bind (print_replies _) fun _ => .pure _) fun _ =>
    .bind (print_replies _) fun _ => .pure _) (.bind (print_replies _) fun _ => .pure _)

/-- Nobody gets a reply while a specification is published. -/
theorem publish_replies (s : Scribe) (question : Json) :
    (s.publish question).Leads (Same World.replies) := by
  have hannounce (spec : Spec) (url : String) :
      (s.announce spec url).Leads (Same World.replies) :=
    .bind (print_replies _) fun _ => .bind (s.announceTwitter_replies spec url) fun _ =>
      .bind (s.announceBluesky_replies spec url) fun _ => .bind (.look _) fun _ => .pure _
  have hbring (spec : Spec) : (s.bringOut spec).Leads (Same World.replies) :=
    .bind (print_replies _) fun _ => .bind (print_replies _) fun _ => .bind (.look _) fun _ =>
      .bind (print_replies _) fun _ => .bind (print_replies _) fun _ =>
      .bind (keep_replies spec) fun _ => hannounce spec _
  refine .bind (print_replies _) fun _ => .bind (print_replies _) fun _ =>
    .bind (s.writeSpec_replies question) fun spec => ?_
  cases spec with
  | none => exact .pure _
  | some spec => exact .bind (hbring spec) fun _ => .pure _

/-! ## Replies that fit -/

/-- No reply among these is too long. -/
def FitChat (made : List Json) : Prop := ∀ r ∈ made, r.Fits 2000

theorem fitChat_nil : FitChat [] := fun _ h => absurd h List.not_mem_nil

theorem fitChat_cons {r : Json} {made : List Json} :
    FitChat (r :: made) ↔ r.Fits 2000 ∧ FitChat made := List.forall_mem_cons

theorem fitChat_singleton {r : Json} : FitChat [r] ↔ r.Fits 2000 :=
  fitChat_cons.trans (and_iff_left fitChat_nil)

/-- The note that a specification is being written. -/
def progressNote (question : String) : String :=
  "🔮 Generating Phi spec for: *" ++ Text.take 50 question ++ "...*\nThis may take a moment..."

theorem fits_progressNote (question : String) : (Json.str (progressNote question)).Fits 2000 := by
  have hfirst : Text.size "🔮 Generating Phi spec for: *" = 28 := by decide
  have hlast : Text.size "...*\nThis may take a moment..." = 30 := by decide
  have hsize : Text.size (progressNote question) = _ :=
    Text.size_take_between (by decide) 50 question "...*\nThis may take a moment..."
  rw [hfirst, hlast] at hsize
  exact Json.fits_str_iff.mpr (by omega)

/-- The reply that shows a publication takes 86 characters more than what it shows. -/
theorem size_publishedReply {p : Publication} {listing reply : String}
    (hlisting : bullets p.spec.highlights = .ok listing) (h : publishedReply p = .ok reply) :
    Text.size reply = Text.size p.spec.title.text + Text.size p.spec.summary.text +
      Text.size listing + Text.size p.url + 86 := by
  rw [publishedReply, hlisting] at h
  obtain rfl := Except.ok.inj h
  have hstars : ∀ d ∈ "**".toList.head?, Text.held? d = none := by
    intro d hd
    obtain rfl : '*' = d := Option.some.inj hd
    rfl
  have htitle (title : String) : Text.size ("✨ **" ++ title ++ "**") = 6 + Text.size title := by
    have hopen : Text.size "✨ **" = 4 := by decide
    have hclose : Text.size "**" = 2 := by decide
    rw [Text.size_between (by decide) hstars, hopen, hclose]
    omega
  have hurl (url : String) : Text.size ("📜 **Spec:** " ++ url) = 12 + Text.size url := by
    have hopen : Text.size "📜 **Spec:** " = 12 := by decide
    rw [Text.size_append_of_not_mem (by decide), hopen]
  have hempty : Text.size "" = 0 := by decide
  have hheading : Text.size "**Highlights:**" = 15 := by decide
  have hlast : Text.size "*Published to GitHub, Twitter, and Bluesky!*" = 44 := by decide
  simp only [Text.size_ofLines_cons, Text.size_ofLines_singleton, htitle, hurl, hempty, hheading,
    hlast]
  omega

/-! ## Replies with a specification -/

/-- If a specification is published, there is room for what is shown of it; and if that fails, there
is room for the message of the fault. -/
structure HasReplyRoom (s : Scribe) (question : String) (w : World) : Prop where
  published : ∀ spec url listing, s.written w = some spec → s.Publishable w spec →
    spec.KeptAt w url → bullets spec.highlights = .ok listing →
      Text.size spec.title.text + Text.size spec.summary.text + Text.size listing +
        Text.size url ≤ 1914
  failed : ∀ f, (s.publish (.str question) w).1 = .error f → f.isFailure = true →
    Text.size f.message ≤ 1984

/-- The reply after an attempt at a publication. -/
def replyToAttempt : Option Publication → Act Unit
  | some p => do Act.reply (← Act.look (publishedReply p))
  | none => Act.reply ("❌ " ++ failure)

theorem replyWithSpec_eq (s : Scribe) (question : String) :
    s.replyWithSpec question = (do
      Act.reply (progressNote question)
      recover (s.publish (.str question) >>= replyToAttempt)
        fun f => Act.reply ("❌ Oracle error: " ++ f.message)) := by
  rw [replyWithSpec]
  refine bind_congr fun _ => ?_
  refine congrArg (fun x => recover x _) (bind_congr fun result => ?_)
  cases result <;> rfl

theorem exists_publishedReply {p : Publication} {xs : List Json}
    (h : p.spec.highlights.items = .ok xs) :
    ∃ listing reply, bullets p.spec.highlights = .ok listing ∧ publishedReply p = .ok reply := by
  unfold publishedReply bullets
  rw [h]
  exact ⟨_, _, rfl, rfl⟩

/-- A reply that shows a publication fits just when there is room. -/
theorem fits_publishedReply_iff {s : Scribe} {question : String} {w w' : World} {p : Publication}
    {reply : String} (hrun : s.publish (.str question) w = (.ok (some p), w'))
    (hreply : publishedReply p = .ok reply) :
    (Json.str reply).Fits 2000 ↔ s.HasReplyRoom question w := by
  obtain ⟨hwritten, hspec, hkept⟩ := of_publish_eq_ok hrun
  obtain ⟨texts, hitems⟩ := hspec.listed
  obtain ⟨listing, -, hlisting, -⟩ := exists_publishedReply hitems
  have hsize := size_publishedReply hlisting hreply
  refine Json.fits_str_iff.trans ⟨fun hle => ⟨?_, fun f hf => ?_⟩, fun hroom => ?_⟩
  · intro spec url listing' hwritten' _ hkept' hlisting'
    cases hwritten.symm.trans hwritten'
    cases hlisting.symm.trans hlisting'
    rw [hkept'.unique hkept]
    omega
  · rw [hrun] at hf
    cases hf
  · have hle := hroom.published p.spec p.url listing hwritten hspec hkept hlisting
    omega

/-- A reply that tells of a fault fits just when there is room. -/
theorem fits_fault_iff {s : Scribe} {question : String} {w w' : World} {f : Fault}
    (hrun : s.publish (.str question) w = (.error f, w')) (hf : f.isFailure = true)
    (hunpublishable : ∀ spec, s.written w = some spec → ¬s.Publishable w spec) :
    (Json.str ("❌ Oracle error: " ++ f.message)).Fits 2000 ↔ s.HasReplyRoom question w := by
  have hwords : Text.size "❌ Oracle error: " = 16 := by decide
  have hsize : Text.size ("❌ Oracle error: " ++ f.message) = _ :=
    Text.size_append_of_not_mem (by decide) f.message
  rw [hwords] at hsize
  refine Json.fits_str_iff.trans ⟨fun hle => ⟨?_, fun f' hf' _ => ?_⟩, fun hroom => ?_⟩
  · intro spec url listing hwritten hspec
    exact absurd hspec (hunpublishable spec hwritten)
  · rw [hrun] at hf'
    cases hf'
    omega
  · have hle := hroom.failed f (by rw [hrun]) hf
    omega

/-- Where nothing is published and no fault is told of, there is nothing to have room for. -/
theorem hasReplyRoom_of_nothing {s : Scribe} {question : String} {w : World}
    (hunpublishable : ∀ spec, s.written w = some spec → ¬s.Publishable w spec)
    (hfault : ∀ f, (s.publish (.str question) w).1 = .error f → f.isFailure = false) :
    s.HasReplyRoom question w := by
  refine ⟨fun spec url listing hwritten hspec => ?_, fun f hf hfailure => ?_⟩
  · exact absurd hspec (hunpublishable spec hwritten)
  · cases (hfault f hf).symm.trans hfailure

/-- What follows the note that a specification is being written. -/
theorem recover_publish_fits (s : Scribe) (question : String) (w : World) :
    ∃ made, (recover (s.publish (.str question) >>= replyToAttempt)
        (fun f => Act.reply ("❌ Oracle error: " ++ f.message)) w).2.replies = w.replies ++ made ∧
      (FitChat made ↔ s.HasReplyRoom question w) := by
  obtain ⟨announced, -, hpublished⟩ := s.publish_published (.str question) w
  have hreplies := s.publish_replies (.str question) w
  rcases hrun : s.publish (.str question) w with ⟨r, w₁⟩
  rw [hrun] at hpublished hreplies
  have hreply (text : String) : (Act.reply text w₁).2.replies = w.replies ++ [.str text] :=
    (World.replies_record w₁ (.reply (.str text))).trans (congrArg (· ++ [Json.str text]) hreplies)
  -- An attempt ends in one of three ways, and each has a reply of its own.
  cases hpublished with
  | unwritten h =>
      have hattempt : (s.publish (.str question) >>= replyToAttempt) w =
          (.ok (), (Act.reply ("❌ " ++ failure) w₁).2) := Act.bind_of_ok hrun
      have hsize : Text.size ("❌ " ++ failure) = 25 := by decide
      rw [Act.recover_of_ok hattempt]
      refine ⟨_, hreply _, iff_of_true ?_ (hasReplyRoom_of_nothing ?_ ?_)⟩
      · exact fitChat_singleton.mpr (Json.fits_str_iff.mpr (by omega))
      · intro spec hspec
        cases h.symm.trans hspec
      · intro f hf
        rw [hrun] at hf
        cases hf
  | failed h hspec f =>
      have hattempt : (s.publish (.str question) >>= replyToAttempt) w = (.error f, w₁) :=
        Act.bind_of_error hrun
      have hunpublishable : ∀ spec, s.written w = some spec → ¬s.Publishable w spec := by
        intro spec hwritten
        cases h.symm.trans hwritten
        exact hspec
      cases hf : f.isFailure with
      | true =>
          rw [Act.recover_of_failure hattempt hf]
          exact ⟨_, hreply _, fitChat_singleton.trans (fits_fault_iff hrun hf hunpublishable)⟩
      | false =>
          -- An interruption passes through the handler, and no reply tells of it.
          rw [Act.recover_of_other hattempt hf]
          refine ⟨[], hreplies.trans (List.append_nil _).symm,
            iff_of_true fitChat_nil (hasReplyRoom_of_nothing hunpublishable fun f' hf' => ?_)⟩
          rw [hrun] at hf'
          cases hf'
          exact hf
  | announced h hspec hurl p =>
      obtain ⟨-, hpublishable, -⟩ := of_publish_eq_ok hrun
      obtain ⟨texts, hitems⟩ := hpublishable.listed
      obtain ⟨-, reply, -, hpublished⟩ := exists_publishedReply hitems
      have hattempt : (s.publish (.str question) >>= replyToAttempt) w =
          (.ok (), (Act.reply reply w₁).2) := by
        rw [Act.bind_of_ok hrun, replyToAttempt, hpublished]
        rfl
      rw [Act.recover_of_ok hattempt]
      exact ⟨_, hreply _, fitChat_singleton.trans (fits_publishedReply_iff hrun hpublished)⟩

/-- All replies with a specification fit just when there is room once the first one was given. -/
theorem replyWithSpec_fits (s : Scribe) (question : String) (w : World) :
    ∃ made, (s.replyWithSpec question w).2.replies = w.replies ++ made ∧
      (FitChat made ↔
        s.HasReplyRoom question (w.record (.reply (.str (progressNote question))))) := by
  obtain ⟨made, hmade, hfits⟩ :=
    s.recover_publish_fits question (w.record (.reply (.str (progressNote question))))
  have hnote : Act.reply (progressNote question) w =
      (.ok (), w.record (.reply (.str (progressNote question)))) := rfl
  refine ⟨.str (progressNote question) :: made, ?_, ?_⟩
  · rw [replyWithSpec_eq, Act.bind_of_ok hnote, hmade, World.replies_record, List.append_assoc]
    rfl
  · rw [fitChat_cons, ← hfits]
    exact ⟨And.right, fun h => ⟨fits_progressNote question, h⟩⟩

/-! ## Short replies -/

theorem answerBriefly_replies (s : Scribe) (question : Json) :
    (s.answerBriefly question).Leads (Same World.replies) :=
  .ite (.recover (Act.ask_picked (fun _ => rfl) rfl) fun _ => .pure _) (.pure _)

/-- A text cut at a place fits with the dots behind it. -/
theorem fits_of_cutAndMark {answer : Json} {text : String}
    (h : answer.cutAndMark 1900 "..." = .ok text) : (Json.str text).Fits 2000 := by
  cases answer with
  | str s =>
      obtain rfl := Except.ok.inj h
      have hdots : Text.size "..." = 3 := rfl
      have hsize : Text.size (Text.upTo 1900 s ++ "...") = _ := Text.size_take_append 1900 s "..."
      rw [hdots] at hsize
      exact Json.fits_str_iff.mpr (by omega)
  | _ => cases h

/-- An answer in a few words fits, whatever the model says. -/
theorem replyBriefly_fits (s : Scribe) (question : String) (w : World) :
    ∃ made, (s.replyBriefly question w).2.replies = w.replies ++ made ∧ FitChat made := by
  have hbrief := s.answerBriefly_replies (.str question) w
  rcases hrun : s.answerBriefly (.str question) w with ⟨r, w₁⟩
  rw [hrun] at hbrief
  have hnone : w₁.replies = w.replies ++ [] := by
    rw [List.append_nil]
    exact hbrief
  have hreply (r : Json) : (w₁.record (.reply r)).replies = w.replies ++ [r] :=
    (World.replies_record w₁ (.reply r)).trans (congrArg (· ++ [r]) hbrief)
  unfold replyBriefly
  cases r with
  | error f =>
      rw [Act.bind_of_error hrun]
      exact ⟨[], hnone, fitChat_nil⟩
  | ok answer =>
      rw [Act.bind_of_ok hrun]
      cases hsize : answer.size with
      | error e => exact ⟨[], hnone, fitChat_nil⟩
      | ok size =>
          rw [Act.bind_of_ok (Act.look_ok size w₁)]
          split
          · cases hcut : answer.cutAndMark 1900 "..." with
            | error e => exact ⟨[], hnone, fitChat_nil⟩
            | ok text =>
                exact ⟨_, hreply _, fitChat_singleton.mpr (fits_of_cutAndMark hcut)⟩
          · exact ⟨_, hreply _, fitChat_singleton.mpr ⟨size, hsize, by omega⟩⟩

/-! ## Every message -/

/-- Answer a question in the chat. -/
def answerInChat (s : Scribe) (question : String) : Act Unit :=
  if chatWantsSpec question then s.replyWithSpec question else s.replyBriefly question

theorem answerInChat_fits (s : Scribe) (question : String) (w : World) :
    ∃ made, (s.answerInChat question w).2.replies = w.replies ++ made ∧
      (FitChat made ↔ (chatWantsSpec question = true →
        s.HasReplyRoom question (w.record (.reply (.str (progressNote question)))))) := by
  unfold answerInChat
  cases hwants : chatWantsSpec question with
  | true =>
      obtain ⟨made, hmade, hfits⟩ := s.replyWithSpec_fits question w
      exact ⟨made, hmade, fun h _ => hfits.mp h, fun h => hfits.mpr (h rfl)⟩
  | false =>
      obtain ⟨made, hmade, hfits⟩ := s.replyBriefly_fits question w
      exact ⟨made, hmade, fun _ h => absurd h Bool.false_ne_true, fun _ => hfits⟩

section

variable {s : Scribe} {m : ChatMessage} {content : String} (hown : m.own = false)
  (hcontent : m.content = .str content)

include hown hcontent

theorem receive_of_unnamed (hnamed : (namesBot content || m.mentioned) = false) (w : World) :
    s.receive m w = (.ok (), w.record (.processCommands m.content)) := by
  have hlook : Act.look ((Json.str content).asText "lower") w = (.ok content, w) := rfl
  rw [receive, hown, if_neg Bool.false_ne_true, hcontent, Act.bind_of_ok hlook, hnamed]
  rfl

theorem receive_of_empty (hnamed : (namesBot content || m.mentioned) = true)
    (hempty : (chatQuestion content).isEmpty = true) (w : World) :
    s.receive m w = (.ok (), w.record
      (.reply (.str "Ask me anything! I'll generate a Phi spec for it. 🔮"))) := by
  have hlook : Act.look ((Json.str content).asText "lower") w = (.ok content, w) := rfl
  rw [receive, hown, if_neg Bool.false_ne_true, hcontent, Act.bind_of_ok hlook, if_pos hnamed,
    if_pos hempty]
  rfl

theorem receive_of_question (hnamed : (namesBot content || m.mentioned) = true)
    (hempty : (chatQuestion content).isEmpty = false) (w : World) :
    s.receive m w = (s.answerInChat (chatQuestion content) >>= fun _ =>
      Act.record (.processCommands m.content)) w := by
  have hlook : Act.look ((Json.str content).asText "lower") w = (.ok content, w) := rfl
  rw [receive, hown, if_neg Bool.false_ne_true, hcontent, Act.bind_of_ok hlook, if_pos hnamed]
  generalize chatQuestion content = question at hempty ⊢
  dsimp only
  rw [hempty, if_neg Bool.false_ne_true, answerInChat]
  split <;> rfl

end

/-- The message asks for a specification. -/
structure AsksForSpec (m : ChatMessage) (question : String) : Prop where
  foreign : m.own = false
  asked : ∃ content, m.content = .str content ∧ (namesBot content || m.mentioned) = true ∧
    chatQuestion content = question
  nonempty : question.isEmpty = false
  wanted : chatWantsSpec question = true

theorem asksForSpec_iff {m : ChatMessage} {content question : String} (hown : m.own = false)
    (hcontent : m.content = .str content) :
    AsksForSpec m question ↔ (namesBot content || m.mentioned) = true ∧
      chatQuestion content = question ∧ question.isEmpty = false ∧
      chatWantsSpec question = true := by
  constructor
  · rintro ⟨-, ⟨content', hcontent', hnamed, hquestion⟩, hnonempty, hwanted⟩
    cases hcontent.symm.trans hcontent'
    exact ⟨hnamed, hquestion, hnonempty, hwanted⟩
  · rintro ⟨hnamed, hquestion, hnonempty, hwanted⟩
    exact ⟨hown, ⟨content, hcontent, hnamed, hquestion⟩, hnonempty, hwanted⟩

/-- Of the replies to a message, only those with a specification may be too long. -/
def RoomDecides (s : Scribe) (m : ChatMessage) (w : World) : Prop :=
  ∃ made, (s.receive m w).2.replies = w.replies ++ made ∧
    (FitChat made ↔ ∀ question, AsksForSpec m question →
      s.HasReplyRoom question (w.record (.reply (.str (progressNote question)))))

section

variable {s : Scribe} {m : ChatMessage} {w : World}

/-- Where nothing is asked for, there is nothing to show but that the replies fit. -/
theorem roomDecides_of_fitChat {made : List Json} (hnone : ∀ question, ¬AsksForSpec m question)
    (hmade : (s.receive m w).2.replies = w.replies ++ made) (hfits : FitChat made) :
    s.RoomDecides m w :=
  ⟨made, hmade, fun _ question h => absurd h (hnone question), fun _ => hfits⟩

theorem roomDecides_of_same (hnone : ∀ question, ¬AsksForSpec m question)
    (hsame : (s.receive m w).2.replies = w.replies) : s.RoomDecides m w :=
  roomDecides_of_fitChat hnone (hsame.trans (List.append_nil _).symm) fitChat_nil

theorem processCommands_replies (v : Json) :
    (Act.record (.processCommands v)).Leads (Same World.replies) :=
  Act.record_picked (fun _ => rfl) rfl

variable {content : String} (hown : m.own = false) (hcontent : m.content = .str content)

include hown hcontent

theorem roomDecides_of_unnamed (hnamed : (namesBot content || m.mentioned) = false) :
    s.RoomDecides m w := by
  refine roomDecides_of_same (fun question h => ?_) ?_
  · cases hnamed.symm.trans ((asksForSpec_iff hown hcontent).mp h).1
  · rw [receive_of_unnamed hown hcontent hnamed w]
    exact processCommands_replies m.content w

theorem roomDecides_of_empty (hnamed : (namesBot content || m.mentioned) = true)
    (hempty : (chatQuestion content).isEmpty = true) : s.RoomDecides m w := by
  have hsize : Text.size "Ask me anything! I'll generate a Phi spec for it. 🔮" = 51 := by decide
  have hreceive := @receive_of_empty s m content hown hcontent hnamed hempty w
  refine roomDecides_of_fitChat (fun question h => ?_)
    ((congrArg (·.2.replies) hreceive).trans (World.replies_record w _)) ?_
  · obtain ⟨-, hquestion, hnonempty, -⟩ := (asksForSpec_iff hown hcontent).mp h
    rw [hquestion, hnonempty] at hempty
    cases hempty
  · exact fitChat_singleton.mpr (Json.fits_str_iff.mpr (by omega))

theorem roomDecides_of_question (hnamed : (namesBot content || m.mentioned) = true)
    (hempty : (chatQuestion content).isEmpty = false) : s.RoomDecides m w := by
  obtain ⟨made, hmade, hfits⟩ := s.answerInChat_fits (chatQuestion content) w
  rw [RoomDecides, receive_of_question hown hcontent hnamed hempty w]
  refine ⟨made, ?_, hfits.trans ⟨fun h question hasks => ?_, fun h hwanted => ?_⟩⟩
  · exact Eq.trans (Act.Leads.bind_from (fun _ => processCommands_replies m.content) w) hmade
  · obtain ⟨-, rfl, -, hwanted⟩ := (asksForSpec_iff hown hcontent).mp hasks
    exact h hwanted
  · exact h _ ((asksForSpec_iff hown hcontent).mpr ⟨hnamed, rfl, hempty, hwanted⟩)

end

/-- Whatever message comes in, all replies to it fit just when it asks for no specification or there
is room. -/
theorem replies_fit_iff (s : Scribe) (m : ChatMessage) (w : World) :
    ∃ made, (s.receive m w).2.replies = w.replies ++ made ∧
      (FitChat made ↔ ∀ question, AsksForSpec m question →
        s.HasReplyRoom question (w.record (.reply (.str (progressNote question))))) := by
  change s.RoomDecides m w
  cases hown : m.own with
  | true =>
      have hreceive : s.receive m w = (.ok (), w) := by rw [receive, hown]; rfl
      refine roomDecides_of_same (fun question h => ?_) (congrArg (·.2.replies) hreceive)
      cases hown.symm.trans h.foreign
  | false =>
      cases hcontent : m.content with
      | str content =>
          cases hnamed : namesBot content || m.mentioned with
          | false => exact roomDecides_of_unnamed hown hcontent hnamed
          | true =>
              cases hempty : (chatQuestion content).isEmpty with
              | true => exact roomDecides_of_empty hown hcontent hnamed hempty
              | false => exact roomDecides_of_question hown hcontent hnamed hempty
      | null | bool _ | int _ | float _ | arr _ | obj _ =>
          have hreceive : (s.receive m w).2 = w := by rw [receive, hown, hcontent]; rfl
          refine roomDecides_of_same (fun question h => ?_) (congrArg World.replies hreceive)
          obtain ⟨content, hcontent', -⟩ := h.asked
          cases hcontent.symm.trans hcontent'

/-! ## A long title -/

theorem not_hasReplyRoom_wordy {s : Scribe} {w : World} {n : Nat} {question : String}
    {rest : List (Scripted (Option Json))} (hs : s.hasModel = true)
    (hmodel : w.model = .gives (some (wordyReply n)) :: rest) (h : Fresh w) (hn : 1914 < n) :
    ¬s.HasReplyRoom question w := by
  intro hroom
  have hle := hroom.published _ _ "• total" (written_wordy hs hmodel) (publishable_wordy h s n)
    (keptAt_wordy h n) rfl
  have htitle : Text.size (wordyDraft n).spec.title.text = n := size_title n
  omega

/-- A scribe without a Twitter client. -/
def chatScribe : Scribe := ⟨true, false, none, none⟩

def explainMessage : ChatMessage where
  content := .str "@phi explain the identity to me"

theorem wordyWorld_not_fitChat {n : Nat} (hn : 1914 < n) :
    ¬FitChat (chatScribe.receive explainMessage (wordyWorld n)).2.replies := by
  have hnamed :
      (namesBot "@phi explain the identity to me" || explainMessage.mentioned) = true := by
    decide +kernel
  have hquestion :
      chatQuestion "@phi explain the identity to me" = "explain the identity to me" := by
    decide +kernel
  have hwants : chatWantsSpec "explain the identity to me" = true := by decide +kernel
  have hempty : (chatQuestion "@phi explain the identity to me").isEmpty = false := by
    rw [hquestion]
    rfl
  obtain ⟨made, hmade, hfits⟩ :=
    chatScribe.answerInChat_fits "explain the identity to me" (wordyWorld n)
  have hall : (chatScribe.receive explainMessage (wordyWorld n)).2.replies = made := by
    rw [receive_of_question rfl rfl hnamed hempty, hquestion]
    exact Eq.trans (Act.Leads.bind_from (fun _ => processCommands_replies _) _) hmade
  rw [hall, hfits]
  exact fun hroom => not_hasReplyRoom_wordy rfl rfl ⟨rfl, rfl, rfl, rfl, rfl⟩ hn (hroom hwants)

/-- The reply that shows a title of 2000 letters is too long. -/
theorem long_title_shown :
    ¬FitChat (chatScribe.receive explainMessage (wordyWorld 2000)).2.replies :=
  wordyWorld_not_fitChat (by decide)

end Scribe

end Persona
