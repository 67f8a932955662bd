import Persona.Proofs.World.Effects
import Persona.Proofs.World.Leading
import Persona.Scribe.Announcement

/-!
# Announcements of a specification

An announcement is a tweet or a post on Bluesky. On each platform one is made at most, and whether
it is made hangs on what comes before it: the tweet needs a client, the post a session that opens.
What the platform answers to it does not matter, and no failure of Bluesky is passed on.

Main statements: `announceTwitter_of_sliced`, `announceBluesky_announcements`.
-/

namespace Persona

/-! ## The announcements made so far -/

/-- What makes something known to everyone. -/
inductive Announcement where
  | tweet (text : Json) (inReplyTo : Option Json)
  /-- A record that is created on Bluesky. -/
  | post (request : Http.Request)

/-- The announcement that an event is. -/
def Event.announcement? : Event → Option Announcement
  | twitter (.createTweet text inReplyTo) => some (.tweet text inReplyTo)
  | http request => if request.url = Bluesky.recordUrl then some (.post request) else none
  | _ => none

/-- What announcements are made of, and what they add to. -/
structure Outlook where
  clock : Moment
  http : List (Scripted Http.Reply)
  announcements : List Announcement

/-- What is used to keep a specification, and then to announce it. -/
structure Stage where
  outlook : Outlook
  environment : List (String × String)
  files : Files
  commands : List (Scripted Outcome)
  system : System

namespace World

/-- The announcements made so far. -/
def announcements (w : World) : List Announcement := w.trace.filterMap Event.announcement?

def outlook (w : World) : Outlook := ⟨w.clock, w.http, w.announcements⟩

def stage (w : World) : Stage := ⟨w.outlook, w.environment, w.files, w.commands, w.system⟩

theorem announcements_record (w : World) (e : Event) :
    (w.record e).announcements = w.announcements ++ e.announcement?.toList :=
  Event.filterMap_append (fun _ => rfl) w.trace e

variable {w w' : World} {e : Event}

theorem announcements_record_of_none (he : e.announcement? = none) :
    (w.record e).announcements = w.announcements := by
  rw [announcements_record, he, Option.toList_none, List.append_nil]

theorem outlook_record (he : e.announcement? = none) : (w.record e).outlook = w.outlook := by
  unfold outlook
  rw [announcements_record_of_none he]
  rfl

theorem stage_record (he : e.announcement? = none) : (w.record e).stage = w.stage := by
  unfold stage
  rw [outlook_record he]
  rfl

theorem Same.outlook (h : Same stage w w') : Same World.outlook w w' := congrArg Stage.outlook h

theorem Same.announcements (h : Same World.outlook w w') : Same World.announcements w w' :=
  congrArg Outlook.announcements h

end World

open World (Same)

namespace Act

theorem print_apply (text : String) (w : World) :
    print text w = (.ok (), w.record (.out (text ++ "\n"))) := rfl

theorem print_stage (text : String) : (print text).Leads (Same World.stage) :=
  fun _ => World.stage_record rfl

theorem print_outlook (text : String) : (print text).Leads (Same World.outlook) :=
  (print_stage text).mono fun _ _ => Same.outlook

theorem print_announcements (text : String) : (print text).Leads (Same World.announcements) :=
  (print_outlook text).mono fun _ _ => Same.announcements

theorem print_recoverable (text : String) : Recoverable (print text) := by
  intro w w' e h
  cases h

theorem ask_stage (question : Prompt) : (ask question).Leads (Same World.stage) := by
  intro w
  have hrecord : (w.record (.prompt question)).stage = w.stage := World.stage_record rfl
  rw [ask_apply]
  split <;> exact hrecord

theorem requireOk_leads {R : World → World → Prop} [IsPreorder World R] (r : Http.Reply) :
    (requireOk r).Leads R := .ite (.pure _) (.throw _)

/-- An attempt of which a failure is told always has a result. -/
theorem recover_print {α : Type} {x : Act (Option α)} (hx : x.Recoverable) (said : Fault → String)
    (w : World) :
    ∃ w', recover x (fun f => do print (said f); return none) w =
        (.ok (x w).1.toOption.join, w') ∧ Same World.stage (x w).2 w' := by
  rcases hrun : x w with ⟨r, w₁⟩
  cases r with
  | ok a => exact ⟨w₁, recover_of_ok hrun, refl w₁⟩
  | error f =>
      rw [recover_of_failure hrun (hx w w₁ f hrun)]
      exact ⟨_, rfl, print_stage _ w₁⟩

theorem http_announcements (request : Http.Request) (w : World) :
    (http request w).2.announcements =
      w.announcements ++ (Event.http request).announcement?.toList := by
  have hrecord := World.announcements_record w (.http request)
  rw [http_apply]
  split <;> exact hrecord

end Act

namespace Scribe

/-! ## Highlights -/

/-- Of what can be listed, only an object cannot be cut. -/
theorem topBullets_ok_iff {highlights : Json} {xs : List Json} (h : highlights.items = .ok xs) :
    (∃ bullets, topBullets highlights = .ok bullets) ↔ ∀ fs, highlights ≠ .obj fs := by
  cases highlights with
  | arr ys => exact ⟨fun _ _ => nofun, fun _ => ⟨_, rfl⟩⟩
  | str text => exact ⟨fun _ _ => nofun, fun _ => ⟨_, rfl⟩⟩
  | obj fs => exact ⟨nofun, fun hno => absurd rfl (hno fs)⟩
  | _ => cases h

/-! ## Twitter -/

/-- The announcement on Twitter, where there is a client. -/
def tweets (s : Scribe) (spec : Spec) (url : String) : List Announcement :=
  match s.hasTwitter, topBullets spec.highlights with
  | true, .ok bullets => [.tweet (.str (shorten (tweetText spec url bullets))) none]
  | _, _ => []

variable (s : Scribe) (spec : Spec) (url : String) (w : World)

/-- Highlights that cannot be cut end the announcement before it is made. -/
theorem announceTwitter_of_error {e : Mismatch} (htwitter : s.hasTwitter = true)
    (he : topBullets spec.highlights = .error e) :
    s.announceTwitter spec url w = (.error (.mismatch e), w) := by
  rw [announceTwitter, if_pos htwitter, he]
  rfl

theorem post_recoverable (text : Json) (inReplyTo : Option Json) :
    Act.Recoverable (Twitter.post text inReplyTo) :=
  .bind (Act.Asking.twitter _).recoverable fun _ => (Act.Asking.look _).recoverable

theorem post_outlook (text : Json) (inReplyTo : Option Json) :
    (Twitter.post text inReplyTo w).2.outlook =
      ⟨w.clock, w.http, w.announcements ++ [.tweet text inReplyTo]⟩ := by
  have hrecord : (w.record (.twitter (.createTweet text inReplyTo))).announcements =
      w.announcements ++ [.tweet text inReplyTo] := World.announcements_record w _
  have hcall : (Act.twitter (.createTweet text inReplyTo) w).2.outlook =
      ⟨w.clock, w.http, w.announcements ++ [.tweet text inReplyTo]⟩ := by
    rw [Act.twitter_apply, ← hrecord]
    split <;> rfl
  rw [← hcall]
  exact Act.Leads.bind_from (R := Same World.outlook) (fun _ => .look _) w

/-- Else the tweet is made, and whatever comes of it, the announcement has a result. -/
theorem announceTwitter_of_sliced
    (hbullets : s.hasTwitter = true → ∃ bullets, topBullets spec.highlights = .ok bullets) :
    ∃ r w', s.announceTwitter spec url w = (.ok r, w') ∧
      w'.outlook = ⟨w.clock, w.http, w.announcements ++ s.tweets spec url⟩ := by
  unfold announceTwitter tweets
  cases htwitter : s.hasTwitter with
  | false =>
      refine ⟨none, _, rfl, ?_⟩
      rw [List.append_nil]
      exact World.outlook_record rfl
  | true =>
      obtain ⟨bullets, hbullets⟩ := hbullets htwitter
      have hpost := post_outlook w (.str (shorten (tweetText spec url bullets))) none
      rw [if_pos rfl, hbullets, Act.bind_of_ok (Act.look_ok bullets w), ← hpost]
      have hattempt : Act.Recoverable (do
          let id ← Twitter.post (.str (shorten (tweetText spec url bullets))) none
          Act.print ("✅ Posted to Twitter: " ++ Twitter.statusUrl id)
          return some (Twitter.statusUrl id) : Act (Option String)) :=
        .bind (post_recoverable _ _) fun _ => .bind (Act.print_recoverable _) fun _ => .pure _
      obtain ⟨w', hrun, hlast⟩ := Act.recover_print hattempt _ w
      refine ⟨_, w', hrun, ?_⟩
      refine Eq.trans hlast.outlook (Act.Leads.bind_from (R := Same World.outlook) (fun _ => ?_) w)
      exact .bind (Act.print_outlook _) fun _ => .pure _

/-! ## Bluesky -/

/-- The token and the owner of a session. -/
def keysOf (session : Json) : Option (Json × Json) :=
  match session.field "accessJwt", session.field "did" with
  | .ok token, .ok owner => some (token, owner)
  | _, _ => none

/-- The token and the owner of the session that a reply opens, if it does. -/
def opened (login : Http.Reply) : Option (Json × Json) :=
  match login.ok, login.json with
  | true, some session => keysOf session
  | _, _ => none

/-- The session for the announcement, if one opens. -/
def session? : Option (Json × Json) :=
  match isSet s.handle && isSet s.password, w.http with
  | true, .gives login :: _ => opened login
  | _, _ => none

/-- The request for a post. -/
def postRequest (bullets : String) (token owner : Json) (now : Moment) : Http.Request where
  method := .post
  url := Bluesky.recordUrl
  headers := some [("Authorization", "Bearer " ++ token.text)]
  json := some (.obj [
    ("repo", owner), ("collection", .str Bluesky.postKind),
    ("record", .obj [
      ("text", .str (Text.take 300 (postText spec url bullets))),
      ("createdAt", .str (now.isoText ++ "Z"))])])

/-- The announcement on Bluesky, where a session opens. -/
def posts : List Announcement :=
  match s.session? w, topBullets spec.highlights with
  | some (token, owner), .ok bullets => [.post (postRequest spec url bullets token owner w.clock)]
  | _, _ => []

theorem posts_congr {w w' : World} (hclock : w'.clock = w.clock) (hhttp : w'.http = w.http) :
    s.posts spec url w' = s.posts spec url w := by
  simp only [posts, session?, hclock, hhttp]

theorem createPost_announcements (session record : Json) :
    (Bluesky.createPost session record w).2.announcements = w.announcements ++
      match keysOf session with
      | some (token, owner) => [.post {
          method := .post
          url := Bluesky.recordUrl
          headers := some [("Authorization", "Bearer " ++ token.text)]
          json := some (.obj [
            ("repo", owner), ("collection", .str Bluesky.postKind), ("record", record)]) }]
      | none => [] := by
  unfold Bluesky.createPost Bluesky.authorization keysOf
  cases session.field "accessJwt" with
  | error e => exact (List.append_nil _).symm
  | ok token =>
      cases session.field "did" with
      | error e => exact (List.append_nil _).symm
      | ok owner => exact Act.http_announcements _ w

theorem postAfter_announcements (login : Http.Reply) :
    (postAfter login spec url w).2.announcements =
      w.announcements ++ match opened login, topBullets spec.highlights with
        | some (token, owner), .ok bullets =>
          [.post (postRequest spec url bullets token owner w.clock)]
        | _, _ => [] := by
  have hnone : w.announcements = w.announcements ++ [] := (List.append_nil _).symm
  unfold postAfter opened
  cases hok : login.ok with
  | false =>
      rw [Act.bind_of_error (Act.requireOk_of_not_ok hok w)]
      exact hnone
  | true =>
      rw [Act.bind_of_ok (Act.requireOk_of_ok hok w)]
      cases hjson : login.json with
      | none =>
          rw [Act.bind_of_error (Act.body_of_none hjson w)]
          exact hnone
      | some session =>
          rw [Act.bind_of_ok (Act.body_of_some hjson w)]
          dsimp only
          cases topBullets spec.highlights with
          | error e => cases keysOf session <;> exact hnone
          | ok bullets =>
              have hnow : Bluesky.timestamp w = (.ok (.str (w.clock.isoText ++ "Z")), w) := rfl
              rw [Act.bind_of_ok (Act.look_ok bullets w), Act.bind_of_ok hnow]
              refine Eq.trans (Act.Leads.bind_from (R := Same World.announcements)
                (fun reply => Act.requireOk_leads reply) w) ?_
              rw [createPost_announcements]
              cases keysOf session <;> rfl

/-- The request for a session takes the next answer, and is no announcement. -/
theorem login_cases (handle password : Option String) :
    ∃ w', w'.clock = w.clock ∧ w'.announcements = w.announcements ∧
      match w.http with
      | .gives login :: _ => Bluesky.login handle password w = (.ok login, w')
      | _ => ∃ f, Bluesky.login handle password w = (.error f, w') := by
  let request : Http.Request := {
    method := .post
    url := Bluesky.loginUrl
    json := some (.obj [
      ("identifier", Json.ofOption handle), ("password", Json.ofOption password)]) }
  have hrequest : (Event.http request).announcement? = none := by
    have hurl : Bluesky.loginUrl ≠ Bluesky.recordUrl := by decide
    simp only [Event.announcement?, request, if_neg hurl]
  have hsame : (w.record (.http request)).announcements = w.announcements :=
    World.announcements_record_of_none hrequest
  rw [Bluesky.login, Act.http_apply]
  match w.http with
  | [] => exact ⟨w.record (.http request), rfl, hsame, _, rfl⟩
  | .fails text :: rest =>
      exact ⟨{ w.record (.http request) with http := rest }, rfl, hsame, _, rfl⟩
  | .gives login :: rest =>
      exact ⟨{ w.record (.http request) with http := rest }, rfl, hsame, rfl⟩

theorem postBluesky_announcements (hset : (isSet s.handle && isSet s.password) = true) :
    (postBluesky s spec url w).2.announcements = w.announcements ++ s.posts spec url w := by
  obtain ⟨w', hclock, hsame, hlogin⟩ := login_cases w s.handle s.password
  unfold postBluesky posts session?
  rw [hset]
  match hhttp : w.http with
  | [] =>
      rw [hhttp] at hlogin
      obtain ⟨f, hlogin⟩ := hlogin
      rw [Act.bind_of_error hlogin, hsame]
      exact (List.append_nil _).symm
  | .fails text :: rest =>
      rw [hhttp] at hlogin
      obtain ⟨f, hlogin⟩ := hlogin
      rw [Act.bind_of_error hlogin, hsame]
      exact (List.append_nil _).symm
  | .gives login :: rest =>
      rw [hhttp] at hlogin
      rw [Act.bind_of_ok hlogin, postAfter_announcements, hsame, hclock]

theorem createPost_recoverable (session record : Json) :
    Act.Recoverable (Bluesky.createPost session record) := by
  have hlook {α : Type} (r : Except Mismatch α) : (Act.look r).Recoverable :=
    (Act.Asking.look r).recoverable
  exact .bind (.bind (hlook _) fun _ => .pure _) fun _ => .bind (hlook _) fun _ =>
    (Act.Asking.http _).recoverable

theorem postBluesky_recoverable : Act.Recoverable (postBluesky s spec url) := by
  have hrequire (r : Http.Reply) : (Act.requireOk r).Recoverable := by
    unfold Act.requireOk
    split
    · exact .pure ()
    · exact .throw rfl
  refine .bind (Act.Asking.http _).recoverable fun login => .bind (hrequire login) fun _ =>
    .bind (Act.Asking.body login).recoverable fun session =>
    .bind (Act.Asking.look _).recoverable fun _ => .bind ?_ fun _ =>
    .bind (createPost_recoverable _ _) fun _ => hrequire _
  intro w w' e h
  cases h

/-- On Bluesky there is a result whatever happens. -/
theorem announceBluesky_announcements :
    ∃ r w', s.announceBluesky spec url w = (.ok r, w') ∧
      w'.announcements = w.announcements ++ s.posts spec url w := by
  unfold announceBluesky
  cases hset : isSet s.handle && isSet s.password with
  | false =>
      have hnone : s.posts spec url w = [] := by simp only [posts, session?, hset]
      refine ⟨none, _, rfl, ?_⟩
      rw [hnone, List.append_nil]
      exact World.announcements_record_of_none rfl
  | true =>
      have hattempt : Act.Recoverable (do
          postBluesky s spec url
          Act.print "✅ Posted to Bluesky"
          return some ("https://bsky.app/profile/" ++ s.handle.getD "") : Act (Option String)) :=
        .bind (postBluesky_recoverable s spec url) fun _ =>
          .bind (Act.print_recoverable _) fun _ => .pure _
      obtain ⟨w', hrun, hlast⟩ := Act.recover_print hattempt _ w
      refine ⟨_, w', hrun, ?_⟩
      rw [← postBluesky_announcements s spec url w hset]
      refine Eq.trans hlast.outlook.announcements
        (Act.Leads.bind_from (R := Same World.announcements) (fun _ => ?_) w)
      exact .bind (Act.print_announcements _) fun _ => .pure _

end Scribe

end Persona
