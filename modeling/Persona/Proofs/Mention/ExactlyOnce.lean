import Persona.Proofs.Mention.Checks
import Persona.Proofs.Mention.Delivery

/-!
# Every mention is given exactly once

The Twitter and the Mastodon inbox ask for what lies above their cursor and move the cursor to the
newest mention of the answer, so they keep to the rules of `Platform.Lawful`. On Mastodon the answer
holds other notifications too; these do not move the cursor and are asked for again.

Main statement: `mentions_given_exactly_once`.
-/

namespace Persona.Mention

/-! ## From the answers to the end of a check -/

/-- What the first part of a fetch has to find, if the answers hold these mentions. -/
def Asked (Gives : Json → Json → Prop) (mentions : List Json) (ok : Bool)
    (r : Except Fault (Option Found)) : Prop :=
  if ok then match mentions with
    | [] => r = .ok none
    | newest :: _ => ∃ id rs, newest.field "id" = .ok id ∧ r = .ok (some ⟨id, .ok rs⟩) ∧
      List.Forall₂ Gives mentions rs
  else ∀ found, r ≠ .ok (some found)

section Conclude

variable {σ : Type} {moved : Json → σ} {save : Json → Act Unit} {s : σ}

/-- After the first part of a fetch no request is made. -/
theorem conclude_trace (hsave : ∀ v, Act.Filing (save v))
    (a : Except Fault (Option Found) × World) :
    (conclude moved save s a).2.trace = a.2.trace := by
  obtain ⟨r, w⟩ := a
  match r with
  | .error f => rfl
  | .ok none => rfl
  | .ok (some found) =>
      have hframe := (hsave found.newest).frame w w rfl
      rcases hrun : save found.newest w with ⟨r', w'⟩
      rw [hrun, Prod.mk.injEq] at hframe
      have htrace : w'.trace = w.trace := by rw [hframe.2]
      rw [conclude, hrun]
      cases r' <;> exact htrace

theorem calls_report (line : String) (a : (Except Fault (List Json) × σ) × World) :
    (report line a).2.calls = a.2.calls := by
  obtain ⟨⟨r, s⟩, w⟩ := a
  cases r with
  | ok mentions => rfl
  | error f => exact (World.calls_record w _).trans (List.append_nil _)

theorem requests_report (line : String) (a : (Except Fault (List Json) × σ) × World) :
    (report line a).2.requests = a.2.requests := by
  obtain ⟨⟨r, s⟩, w⟩ := a
  cases r with
  | ok mentions => rfl
  | error f => exact (World.requests_record w _).trans (List.append_nil _)

/-- If the first part finds what it has to, the cursor is moved, saved, and all mentions are
given. -/
theorem settle_of_asked {Gives : Json → Json → Prop} {mentions : List Json} {ok : Bool}
    {a : Except Fault (Option Found) × World} (hasked : Asked Gives mentions ok a.1)
    (hids : ∀ x ∈ mentions, Identified x) {lastSeen : σ → Json}
    (hmoved : ∀ v, lastSeen (moved v) = v) (i : Inbox) {old : Option (List (String × Json))}
    (hold : Cursor.Holds a.2.files old) (hstored : Inbox.stored old i.key = lastSeen s)
    {c : Option Int} (hstands : Stands (lastSeen s) c) (line : String) :
    ∃ rs s' w' new, report line (conclude moved i.saveCursor s a) = ((.ok rs, s'), w') ∧
      Cursor.Holds w'.files new ∧ Inbox.stored new i.key = lastSeen s' ∧
      List.Forall₂ Gives (if ok then mentions else []) rs ∧
      Stands (lastSeen s') (if ok then advance c mentions else c) := by
  obtain ⟨r, w⟩ := a
  cases ok with
  | false =>
      match r with
      | .error f => exact ⟨[], s, _, old, rfl, hold, hstored, .nil, hstands⟩
      | .ok none => exact ⟨[], s, w, old, rfl, hold, hstored, .nil, hstands⟩
      | .ok (some found) => exact absurd rfl (hasked found)
  | true =>
      cases mentions with
      | nil =>
          have hr : r = .ok none := hasked
          subst hr
          exact ⟨[], s, w, old, rfl, hold, hstored, .nil, hstands⟩
      | cons newest rest =>
          obtain ⟨id, rs, hid, hr, hgives⟩ := hasked
          obtain ⟨id', hid', hplace⟩ := hids newest List.mem_cons_self
          rw [hid] at hid'
          cases hid'
          change r = _ at hr
          subst hr
          obtain ⟨t, new, hsave, hnew, hupdated⟩ := i.saveCursor_of_holds hold hplace.storable
          refine ⟨rs, moved id, { w with files := t }, some new, ?_, hnew, ?_, hgives, ?_⟩
          · rw [conclude, hsave]
            rfl
          · rw [Inbox.stored, Option.getD_some, hupdated, if_pos rfl, hmoved]
            rfl
          · rw [hmoved]
            exact hplace

end Conclude

/-! ## Twitter -/

namespace TwitterInbox

/-- The number above which mentions are asked for. -/
def sinceOf (named : List (String × Json)) : Option Int :=
  (Fields.get? named "since_id").bind fun v => (Twitter.number v).toOption

/-- Data that lists items; there may be none at all when there is nothing to list. -/
def Lists (items : List Json) (data : Json) : Prop :=
  data = .arr items ∨ (items = [] ∧ data = .null)

/-- Objects beside the data that name users, or none. -/
def NamesUsers (includes : Json) : Prop :=
  includes.truthy = false ∨ ∃ fs, includes = .obj fs ∧
    ∀ v, Fields.get? fs "users" = some v → ∃ users, v = .arr users ∧
      ∀ u ∈ users, ∃ id name, Twitter.attr u "id" = .ok id ∧ id.lookable = .ok id ∧
        Twitter.attr u "username" = .ok name

/-- The service answers a call for mentions with those above the number given, the newest first, or
it fails. What it says of the user is left open. -/
def Serves (items : List Json) : Twitter.Call → Scripted Twitter.Answer → Prop
  | .getMentions _ named, .gives (.result data includes) =>
    Lists (newestFirst items (sinceOf named)) data ∧ NamesUsers includes
  | _, _ => True

/-- The answers to come tell the id of the user and then what mentions there are. -/
def answered : List (Scripted Twitter.Answer) → Bool
  | .gives (.result me _) :: .gives (.result _ _) :: _ => me.truthy && (Twitter.attr me "id").isOk
  | _ => false

/-- A tweet with everything that a mention is made of. -/
def WellFormed (tweet : Json) : Prop :=
  ∃ text author conversation, Twitter.attr tweet "text" = .ok text ∧
    Twitter.attr tweet "author_id" = .ok author ∧ author.lookable = .ok author ∧
    Twitter.attr tweet "conversation_id" = .ok conversation

/-- A mention with the id, the text and the conversation of a tweet. -/
def Gives (tweet r : Json) : Prop :=
  ∃ id text author conversation, tweet.field "id" = .ok id ∧ Twitter.attr tweet "text" = .ok text ∧
    Twitter.attr tweet "conversation_id" = .ok conversation ∧
    r = .obj [("id", id), ("text", text), ("author", author), ("conversation_id", conversation)]

def platform : Platform where
  Inbox := TwitterInbox
  Request := Twitter.Call
  Answer := Scripted Twitter.Answer
  key := key
  lastSeen := lastSeen
  build := Inbox.openTwitter
  check := check
  requests := World.calls
  answers := World.twitter
  isMention := fun _ => true
  WellFormed := WellFormed
  Gives := Gives
  Serves := Serves
  Asks := fun _ c call => ∃ user named, call = .getMentions user named ∧ sinceOf named = c
  reaches := fun w => canConnect w && answered w.twitter

theorem attr_of_field {v x : Json} {name : String} (h : v.field name = .ok x) :
    Twitter.attr v name = .ok x := by
  cases v with
  | obj fs =>
      rw [Json.field] at h
      rw [Twitter.attr]
      cases hget : Fields.get? fs name with
      | none => rw [hget] at h; cases h
      | some y => rw [hget] at h; cases h; rfl
  | null | bool b | int n | float x | str s | arr xs => cases h

/-- The cursor is what the mentions are asked for above. -/
theorem sinceOf_mentionsCall {s : TwitterInbox} {c : Option Int} (h : Stands s.lastSeen c) :
    sinceOf ([("expansions", .str "author_id"),
      ("tweet.fields", .str "created_at,conversation_id")] ++
      if s.lastSeen.truthy then [("since_id", s.lastSeen)] else []) = c := by
  rw [h.truthy_eq]
  cases c with
  | none => rfl
  | some n =>
      rw [Option.isSome_some, if_pos rfl, sinceOf]
      change (Twitter.number s.lastSeen).toOption = some n
      rw [h.2.2]
      rfl

theorem exists_userNames {includes : Json} (h : NamesUsers includes) :
    ∃ names, userNames includes = .ok names := by
  cases htruthy : includes.truthy with
  | false =>
      rw [userNames, htruthy]
      exact ⟨[], rfl⟩
  | true =>
      obtain hfalse | ⟨fs, rfl, husers⟩ := h
      · rw [htruthy] at hfalse
        cases hfalse
      · rw [userNames, htruthy, if_pos rfl, Json.fieldOr]
        cases hget : Fields.get? fs "users" with
        | none => exact ⟨[], rfl⟩
        | some v =>
            obtain ⟨users, rfl, hall⟩ := husers v hget
            obtain ⟨pairs, hpairs, -⟩ : ∃ pairs, users.mapM (fun u => do
                let id ← Twitter.attr u "id"
                let name ← Twitter.attr u "username"
                return (← id.lookable, name) : Json → Except Mismatch (Json × Json)) = .ok pairs ∧
                List.Forall₂ (fun _ _ => True) users pairs := by
              apply Outcome.mapM_of_forall
              intro u hu
              obtain ⟨id, name, hid, hlookable, hname⟩ := hall u hu
              refine ⟨(id, name), ?_, trivial⟩
              rw [hid, hname]
              simp only [bind, Except.bind, hlookable]
              rfl
            refine ⟨pairs.reverse, ?_⟩
            simp only [Option.getD_some, Json.items, bind, Except.bind] at hpairs ⊢
            rw [hpairs]
            rfl

theorem exists_mention {tweet : Json} (hwell : WellFormed tweet) (hid : Identified tweet)
    (names : List (Json × Json)) : ∃ r, mention names tweet = .ok r ∧ Gives tweet r := by
  obtain ⟨text, author, conversation, htext, hauthor, hlookable, hconversation⟩ := hwell
  obtain ⟨id, hfield, -⟩ := hid
  simp only [mention, attr_of_field hfield, htext, hauthor, hlookable, hconversation, bind,
    Except.bind]
  exact ⟨_, rfl, id, text, _, conversation, hfield, htext, hconversation, rfl⟩

/-- Well-formed tweets are given as mentions, in their order. -/
theorem exists_mentions {tweets : List Json} (htweets : ∀ x ∈ tweets, WellFormed x ∧ Identified x)
    {includes : Json} (hincludes : NamesUsers includes) :
    ∃ rs, mentions (.arr tweets) includes = .ok rs ∧ List.Forall₂ Gives tweets rs := by
  obtain ⟨names, hnames⟩ := exists_userNames hincludes
  obtain ⟨rs, hrs, hgives⟩ : ∃ rs, tweets.mapM (mention names) = .ok rs ∧
      List.Forall₂ Gives tweets rs :=
    Outcome.mapM_of_forall fun x hx => exists_mention (htweets x hx).1 (htweets x hx).2 names
  refine ⟨rs, ?_, hgives⟩
  rw [mentions, hnames]
  exact hrs

theorem find_world (data includes : Json) (w : World) : (find data includes w).2 = w := by
  unfold find
  cases data.truthy with
  | false => rfl
  | true => cases data.first >>= (Twitter.attr · "id") <;> rfl

/-- Where the answer lists the mentions above the cursor, they are found. -/
theorem asked_of_lists {items : List Json} {c : Option Int}
    (hitems : ∀ x ∈ items, WellFormed x ∧ Identified x) {data includes : Json}
    (hlists : Lists (newestFirst items c) data) (hincludes : NamesUsers includes) (w : World) :
    Asked Gives (fresh (fun _ => true) items c) true (find data includes w).1 := by
  have hall : ∀ x ∈ newestFirst items c, WellFormed x ∧ Identified x := by
    intro x hx
    rw [newestFirst, List.mem_reverse] at hx
    exact hitems x (List.mem_filter.mp hx).1
  rw [fresh, List.filter_true]
  cases hnew : newestFirst items c with
  | nil =>
      rw [hnew] at hlists
      rcases hlists with rfl | ⟨-, rfl⟩ <;> rfl
  | cons newest rest =>
      rw [hnew] at hlists hall
      obtain rfl : data = .arr (newest :: rest) := by
        rcases hlists with h | ⟨h, -⟩
        · exact h
        · cases h
      obtain ⟨id, hid, -⟩ := (hall newest List.mem_cons_self).2
      obtain ⟨rs, hrs, hgives⟩ := exists_mentions hall hincludes
      refine ⟨id, rs, hid, ?_, hgives⟩
      have hfirst : (Json.arr (newest :: rest)).first >>= (Twitter.attr · "id") = .ok id :=
        attr_of_field hid
      have htruthy : (!(Json.arr (newest :: rest)).truthy) = false := rfl
      rw [find, htruthy, if_neg Bool.false_ne_true, hfirst, Act.bind_of_ok (Act.look_ok _ _), hrs]
      rfl

theorem exists_of_answered {answers : List (Scripted Twitter.Answer)}
    (h : answered answers = true) :
    ∃ me includes data includes' rest user,
      answers = .gives (.result me includes) :: .gives (.result data includes') :: rest ∧
      me.truthy = true ∧ Twitter.attr me "id" = .ok user := by
  unfold answered at h
  split at h
  · next me includes data includes' rest =>
      obtain ⟨htruthy, hid⟩ := Bool.and_eq_true_iff.mp h
      cases huser : Twitter.attr me "id" with
      | error e =>
          rw [huser] at hid
          cases hid
      | ok user => exact ⟨me, includes, data, includes', rest, user, rfl, htruthy, huser⟩
  · cases h

/-- Where both calls of the first part of a fetch are answered, the second one is for the mentions
above the cursor, and what is found is in the answer to it. -/
theorem ask_of_answered {s : TwitterInbox} {w : World} (h : answered w.twitter = true) :
    ∃ user me data includes rest, ∃ w₂ : World,
      (ask s w).2.calls = w.calls ++ [.getMe none, s.mentionsCall user] ∧
      w.twitter = me :: .gives (.result data includes) :: rest ∧
      (ask s w).1 = (find data includes w₂).1 := by
  obtain ⟨me, includes, data, includes', rest, user, htwitter, htruthy, huser⟩ :=
    exists_of_answered h
  let w₁ := { w.record (.twitter (.getMe none)) with
    twitter := .gives (.result data includes') :: rest }
  let w₂ := { w₁.record (.twitter (s.mentionsCall user)) with twitter := rest }
  have hme : Act.twitter (.getMe none) w = (.ok (me, includes), w₁) := by
    rw [Act.twitter_apply, htwitter]
  have hdata : Act.twitter (s.mentionsCall user) w₁ = (.ok (data, includes'), w₂) :=
    Act.twitter_apply _ w₁
  have hask : ask s w = find data includes' w₂ := by
    rw [ask, Act.bind_of_ok hme]
    simp only
    rw [htruthy, Bool.not_true, if_neg Bool.false_ne_true, huser,
      Act.bind_of_ok (Act.look_ok _ _), Act.bind_of_ok hdata]
  have hcalls : w₂.calls = w.calls ++ [.getMe none, s.mentionsCall user] := by
    have hfirst : w₁.calls = w.calls ++ [.getMe none] :=
      World.calls_record w (.twitter (.getMe none))
    have hsecond : w₂.calls = w₁.calls ++ [s.mentionsCall user] :=
      World.calls_record w₁ (.twitter (s.mentionsCall user))
    rw [hsecond, hfirst, List.append_assoc]
    rfl
  refine ⟨user, _, data, includes', rest, w₂, ?_, htwitter, by rw [hask]⟩
  rw [hask, find_world, hcalls]

/-- Only what was answered is found. -/
theorem answered_of_found {s : TwitterInbox} {w : World} {found : Found}
    (h : (ask s w).1 = .ok (some found)) : answered w.twitter = true := by
  obtain ⟨w₁, -, ⟨e, hme, -⟩ | ⟨me, includes, hme, hfirst⟩⟩ := Act.twitter_cases (.getMe none) w
  · rw [ask, Act.bind_of_error hme] at h
    cases h
  rw [ask, Act.bind_of_ok hme] at h
  simp only at h
  cases htruthy : me.truthy with
  | false =>
      rw [htruthy] at h
      cases h
  | true =>
      rw [htruthy, Bool.not_true, if_neg Bool.false_ne_true] at h
      cases huser : Twitter.attr me "id" with
      | error e =>
          rw [huser] at h
          cases h
      | ok user =>
          rw [huser, Act.bind_of_ok (Act.look_ok _ _)] at h
          obtain ⟨w₂, -, ⟨e, hdata, -⟩ | ⟨data, includes', -, hsecond⟩⟩ :=
            Act.twitter_cases (s.mentionsCall user) w₁
          · rw [Act.bind_of_error hdata] at h
            cases h
          · rw [hfirst, hsecond, answered, htruthy, huser]
            rfl

/-- The calls of the first part of a fetch, served as they may be, lead to the mentions above the
cursor if they are answered, and to nothing otherwise. -/
theorem asked_of_served {s : TwitterInbox} {w : World} {items : List Json} {c : Option Int}
    (hstands : Stands s.lastSeen c) (hitems : ∀ x ∈ items, WellFormed x ∧ Identified x)
    {sent : List Twitter.Call} {answers rest : List (Scripted Twitter.Answer)}
    (hcalls : (ask s w).2.calls = w.calls ++ sent) (hanswers : w.twitter = answers ++ rest)
    (hserves : List.Forall₂ (Serves items) sent answers) :
    Asked Gives (fresh (fun _ => true) items c) (answered w.twitter) (ask s w).1 := by
  cases hanswered : answered w.twitter with
  | false =>
      intro found hfound
      rw [answered_of_found hfound] at hanswered
      cases hanswered
  | true =>
      obtain ⟨user, me, data, includes, later, w₂, htwo, htwitter, hfind⟩ :=
        ask_of_answered (s := s) hanswered
      obtain rfl := List.append_cancel_left (htwo.symm.trans hcalls)
      obtain ⟨a, tail, -, htail, rfl⟩ := List.forall₂_cons_left_iff.mp hserves
      obtain ⟨b, tail', hserve, -, rfl⟩ := List.forall₂_cons_left_iff.mp htail
      rw [htwitter] at hanswers
      obtain rfl : .gives (.result data includes) = b :=
        (List.cons.inj (List.cons.inj hanswers).2).1
      obtain ⟨hlists, hincludes⟩ := hserve
      rw [sinceOf_mentionsCall hstands] at hlists
      rw [hfind]
      exact asked_of_lists hitems hlists hincludes w₂

/-- The calls of a check are those of the first part of its fetch. -/
theorem check_calls {s : TwitterInbox} {w w₁ : World} (hconnect : connect w = (.ok true, w₁)) :
    (check s w).2.calls = (ask s w₁).2.calls := by
  rw [check_of_connected hconnect, fetch_eq, calls_report, World.calls,
    conclude_trace (Cursor.filing_saveFirst key)]
  rfl

/-- A check that is served gives the tweets above the cursor if it gets them, and nothing
otherwise. -/
theorem check_of_served {s : TwitterInbox} {w : World} {old : Option (List (String × Json))}
    {items : List Json} {c : Option Int} (hold : Cursor.Holds w.files old)
    (hstored : Inbox.stored old key = s.lastSeen) (hstands : Stands s.lastSeen c)
    (hitems : ∀ x ∈ items, WellFormed x ∧ Identified x)
    {sent : List Twitter.Call} {answers rest : List (Scripted Twitter.Answer)}
    (hsent : (check s w).2.calls = w.calls ++ sent) (hanswers : w.twitter = answers ++ rest)
    (hserves : List.Forall₂ (Serves items) sent answers) {ok : Bool}
    (hok : ok = (canConnect w && answered w.twitter)) :
    ∃ rs s' w' new, check s w = ((.ok rs, s'), w') ∧ Cursor.Holds w'.files new ∧
      Inbox.stored new key = s'.lastSeen ∧
      List.Forall₂ Gives (if ok then fresh (fun _ => true) items c else []) rs ∧
      Stands s'.lastSeen (if ok then advance c (fresh (fun _ => true) items c) else c) := by
  obtain ⟨trace, hconnect, htrace, -⟩ := connect_apply w
  cases hcan : canConnect w with
  | false =>
      rw [hcan] at hconnect hok
      subst hok
      rw [check_of_not_connected hconnect]
      exact ⟨[], s, _, old, rfl, hold, hstored, .nil, hstands⟩
  | true =>
      rw [hcan] at hconnect hok
      rw [check_calls hconnect, ← htrace] at hsent
      have hasked := asked_of_served hstands hitems hsent hanswers hserves
      rw [check_of_connected hconnect, fetch_eq]
      rw [Bool.true_and] at hok
      subst hok
      refine settle_of_asked hasked ?_ (fun v => rfl) (.twitter s) ?_ hstored hstands _
      · exact fun x hx => (hitems x ((mem_fresh_iff _).mp hx).1).2
      · rw [(asking_ask s).files_eq]
        exact hold

theorem lawful : platform.Lawful where
  build_ok h := ⟨_, Inbox.openTwitter_of_holds h, rfl⟩
  check_asks {s w c} hstands hreaches := by
    obtain ⟨hcan, hanswered⟩ := Bool.and_eq_true_iff.mp hreaches
    obtain ⟨trace, hconnect, htrace, -⟩ := connect_apply w
    rw [hcan] at hconnect
    obtain ⟨user, -, -, -, -, -, hcalls, -, -⟩ :=
      ask_of_answered (s := s) (w := { w with trace }) hanswered
    refine ⟨_, ((check_calls hconnect).trans hcalls).trans (congrArg (· ++ _) htrace), ?_⟩
    exact ⟨_, List.mem_cons_of_mem _ List.mem_cons_self, some user, _, rfl,
      sinceOf_mentionsCall hstands⟩
  check_ok hold hstored hstands hitems hattended := by
    obtain ⟨sent, answers, rest, hsent, hanswers, hserves⟩ := hattended
    exact check_of_served hold hstored hstands hitems hsent hanswers hserves rfl

end TwitterInbox

/-! ## Mastodon -/

namespace MastodonInbox

/-- The number above which notifications are asked for. -/
def sinceOf (request : Http.Request) : Option Int :=
  match request.query with
  | some (.obj fs) => (Fields.get? fs "since_id").bind fun v => (Twitter.number v).toOption
  | _ => none

/-- The server replies with the notifications above the number given, the newest first, or its reply
is no success. -/
def Serves (items : List Json) (request : Http.Request) : Scripted Http.Reply → Prop
  | .gives reply => reply.ok = true → reply.json = some (.arr (newestFirst items (sinceOf request)))
  | .fails _ => True

/-- The reply to come is a success. -/
def answered : List (Scripted Http.Reply) → Bool
  | .gives reply :: _ => reply.ok
  | _ => false

def isMention (n : Json) : Bool := hasText n "type" "mention"

/-- A notification; if it is a mention, with everything that a mention is made of. -/
def WellFormed (n : Json) : Prop :=
  (∃ fs, n = .obj fs) ∧ (isMention n = true → ∃ status account id acct,
    n.field "status" = .ok (.obj status) ∧ (Json.obj status).field "id" = .ok id ∧
    n.field "account" = .ok account ∧ account.field "acct" = .ok acct)

/-- A mention with the id of the status of a notification, its content and its account's name. -/
def Gives (n r : Json) : Prop :=
  ∃ status account id acct, n.field "status" = .ok (.obj status) ∧
    (Json.obj status).field "id" = .ok id ∧ n.field "account" = .ok account ∧
    account.field "acct" = .ok acct ∧
    r = .obj [("id", id), ("text", (Fields.get? status "content").getD (.str "")), ("author", acct),
      ("visibility", (Fields.get? status "visibility").getD (.str "public"))]

def platform : Platform where
  Inbox := MastodonInbox
  Request := Http.Request
  Answer := Scripted Http.Reply
  key := key
  lastSeen := lastSeen
  build := Inbox.openMastodon
  check := check
  requests := World.requests
  answers := World.http
  isMention := isMention
  WellFormed := WellFormed
  Gives := Gives
  Serves := Serves
  Asks := fun s c request => request.method = .get ∧
    request.url = s.server ++ "/api/v1/notifications" ∧ sinceOf request = c
  reaches := fun w => hasToken w && answered w.http

/-- The cursor is what the notifications are asked for above. -/
theorem sinceOf_request {s : MastodonInbox} {c : Option Int} (h : Stands s.lastSeen c)
    (headers : List (String × String)) : sinceOf (s.request headers) = c := by
  rw [sinceOf, request, h.truthy_eq]
  cases c with
  | none => rfl
  | some n =>
      change (Twitter.number s.lastSeen).toOption = some n
      rw [h.2.2]
      rfl

theorem exists_mention {n : Json} (hwell : WellFormed n) (hmention : isMention n = true) :
    ∃ r, mention n = .ok r ∧ Gives n r := by
  obtain ⟨status, account, id, acct, hstatus, hid, haccount, hacct⟩ := hwell.2 hmention
  refine ⟨_, ?_, status, account, id, acct, hstatus, hid, haccount, hacct, rfl⟩
  simp only [mention, hstatus, haccount, Json.fieldOr, hid, hacct, bind, Except.bind]
  rfl

/-- Where the reply lists the notifications above the cursor, the mentions among them are found. -/
theorem asked_of_reply {items : List Json} {c : Option Int}
    (hitems : ∀ x ∈ items, WellFormed x ∧ Identified x) {reply : Http.Reply} (hok : reply.ok = true)
    (hjson : reply.json = some (.arr (newestFirst items c))) (w : World) :
    Asked Gives (fresh isMention items c) true (find reply w).1 := by
  have hobjects : ∀ n ∈ newestFirst items c, ∃ fs, n = .obj fs := by
    intro n hn
    rw [newestFirst, List.mem_reverse] at hn
    exact (hitems n (List.mem_filter.mp hn).1).1.1
  have hmentions : mentionsOf (.arr (newestFirst items c)) = .ok (fresh isMention items c) :=
    filterM_hasText hobjects "type" "mention"
  obtain ⟨rs, hrs, hgives⟩ : ∃ rs, (fresh isMention items c).mapM mention = .ok rs ∧
      List.Forall₂ Gives (fresh isMention items c) rs := by
    apply Outcome.mapM_of_forall
    intro n hn
    obtain ⟨hmem, -, hmention⟩ := (mem_fresh_iff isMention).mp hn
    exact exists_mention (hitems n hmem).1 hmention
  rw [find, hok, Bool.not_true, if_neg Bool.false_ne_true,
    Act.bind_of_ok (Act.body_of_some hjson w), hmentions, Act.bind_of_ok (Act.look_ok _ _)]
  cases hfresh : fresh isMention items c with
  | nil => rfl
  | cons newest rest =>
      have hmem : newest ∈ fresh isMention items c := by
        rw [hfresh]
        exact List.mem_cons_self
      obtain ⟨id, hid, -⟩ := (hitems newest ((mem_fresh_iff isMention).mp hmem).1).2
      rw [hfresh] at hrs hgives
      refine ⟨id, rs, hid, ?_, hgives⟩
      simp only
      rw [hid, Act.bind_of_ok (Act.look_ok _ _), hrs]
      rfl

theorem find_world (reply : Http.Reply) (w : World) : (find reply w).2 = w := by
  unfold find
  cases reply.ok with
  | false => rfl
  | true =>
      rw [Bool.not_true, if_neg Bool.false_ne_true]
      cases hjson : reply.json with
      | none => rw [Act.bind_of_error (Act.body_of_none hjson w)]
      | some body =>
          rw [Act.bind_of_ok (Act.body_of_some hjson w)]
          cases mentionsOf body with
          | error e => rfl
          | ok mentions =>
              rw [Act.bind_of_ok (Act.look_ok _ _)]
              match mentions with
              | [] => rfl
              | newest :: rest =>
                  simp only
                  cases newest.field "id" <;> rfl

/-- The first part of a fetch makes one request, whatever the reply. -/
theorem ask_requests (s : MastodonInbox) (headers : List (String × String)) (w : World) :
    (ask s headers w).2.requests = w.requests ++ [s.request headers] := by
  unfold ask
  obtain ⟨w₁, hrequests, ⟨e, hreply, -⟩ | ⟨reply, hreply, -⟩⟩ :=
    Act.http_cases (s.request headers) w
  · rw [Act.bind_of_error hreply, hrequests]
  · rw [Act.bind_of_ok hreply, find_world, hrequests]

/-- The request of the first part of a fetch, served as it may be, leads to the mentions above the
cursor if the reply is a success, and to nothing otherwise. -/
theorem asked_of_served {s : MastodonInbox} {headers : List (String × String)} {w : World}
    {items : List Json} {c : Option Int} (hstands : Stands s.lastSeen c)
    (hitems : ∀ x ∈ items, WellFormed x ∧ Identified x)
    {sent : List Http.Request} {answers rest : List (Scripted Http.Reply)}
    (hrequests : (ask s headers w).2.requests = w.requests ++ sent)
    (hanswers : w.http = answers ++ rest) (hserves : List.Forall₂ (Serves items) sent answers) :
    Asked Gives (fresh isMention items c) (answered w.http) (ask s headers w).1 := by
  obtain rfl := List.append_cancel_left ((ask_requests s headers w).symm.trans hrequests)
  obtain ⟨a, tail, hserve, -, rfl⟩ := List.forall₂_cons_left_iff.mp hserves
  unfold ask
  obtain ⟨w₁, -, ⟨e, hreply, hno⟩ | ⟨reply, hreply, hanswer⟩⟩ :=
    Act.http_cases (s.request headers) w
  · -- there is no reply
    rw [Act.bind_of_error hreply, hanswers]
    match a with
    | .fails text => exact fun found h => by cases h
    | .gives reply => exact absurd hanswers (hno reply _)
  · rw [Act.bind_of_ok hreply]
    rw [hanswer] at hanswers ⊢
    obtain rfl : .gives reply = a := (List.cons.inj hanswers).1
    rw [answered]
    cases hok : reply.ok with
    | false =>
        rw [find, hok]
        exact fun found h => by cases h
    | true =>
        have hjson := hserve hok
        rw [sinceOf_request hstands] at hjson
        exact asked_of_reply hitems hok hjson w₁

/-- The requests of a check are those of the first part of its fetch. -/
theorem check_requests {s : MastodonInbox} {w : World} {header : List (String × String)}
    (hheader : headers w = (.ok (some header), w)) :
    (check s w).2.requests = (ask s header w).2.requests := by
  rw [check_of_token hheader, fetch_eq, requests_report, World.requests,
    conclude_trace (Cursor.filing_save key)]
  rfl

/-- A check that is served gives the mentions above the cursor if it gets the notifications, and
nothing otherwise. -/
theorem check_of_served {s : MastodonInbox} {w : World} {old : Option (List (String × Json))}
    {items : List Json} {c : Option Int} (hold : Cursor.Holds w.files old)
    (hstored : Inbox.stored old key = s.lastSeen) (hstands : Stands s.lastSeen c)
    (hitems : ∀ x ∈ items, WellFormed x ∧ Identified x)
    {sent : List Http.Request} {answers rest : List (Scripted Http.Reply)}
    (hsent : (check s w).2.requests = w.requests ++ sent) (hanswers : w.http = answers ++ rest)
    (hserves : List.Forall₂ (Serves items) sent answers) {ok : Bool}
    (hok : ok = (hasToken w && answered w.http)) :
    ∃ rs s' w' new, check s w = ((.ok rs, s'), w') ∧ Cursor.Holds w'.files new ∧
      Inbox.stored new key = s'.lastSeen ∧
      List.Forall₂ Gives (if ok then fresh isMention items c else []) rs ∧
      Stands s'.lastSeen (if ok then advance c (fresh isMention items c) else c) := by
  obtain ⟨header, hheader, htoken⟩ := headers_apply w
  rw [← htoken] at hok
  cases header with
  | none =>
      subst hok
      rw [check_of_no_token hheader]
      exact ⟨[], s, w, old, rfl, hold, hstored, .nil, hstands⟩
  | some header =>
      rw [check_requests hheader] at hsent
      have hasked := asked_of_served hstands hitems hsent hanswers hserves
      rw [check_of_token hheader, fetch_eq]
      rw [Option.isSome_some, Bool.true_and] at hok
      subst hok
      refine settle_of_asked hasked ?_ (fun v => rfl) (.mastodon s) ?_ hstored hstands _
      · exact fun x hx => (hitems x ((mem_fresh_iff _).mp hx).1).2
      · rw [(asking_ask s header).files_eq]
        exact hold

theorem lawful : platform.Lawful where
  build_ok h := ⟨_, Inbox.openMastodon_of_holds h, rfl⟩
  check_asks {s w c} hstands hreaches := by
    obtain ⟨header, hheader, htoken⟩ := headers_apply w
    rw [(Bool.and_eq_true_iff.mp hreaches).1] at htoken
    obtain ⟨header, rfl⟩ := Option.isSome_iff_exists.mp htoken
    refine ⟨_, (check_requests hheader).trans (ask_requests s header w), ?_⟩
    exact ⟨_, List.mem_cons_self, rfl, rfl, sinceOf_request hstands header⟩
  check_ok hold hstored hstands hitems hattended := by
    obtain ⟨sent, answers, rest, hsent, hanswers, hserves⟩ := hattended
    exact check_of_served hold hstored hstands hitems hsent hanswers hserves rfl

end MastodonInbox

/-! ## Both platforms -/

/-- The platforms that are asked for what lies above a number. -/
inductive Feed where
  | twitter
  | mastodon

namespace Feed

def platform : Feed → Platform
  | twitter => TwitterInbox.platform
  | mastodon => MastodonInbox.platform

theorem lawful (feed : Feed) : feed.platform.Lawful := by
  cases feed with
  | twitter => exact TwitterInbox.lawful
  | mastodon => exact MastodonInbox.lawful

end Feed

/-- Whatever appears, fails or is built again in a run, each mention above the cursor of the start
is given exactly once: by the first check that succeeds after it appeared. A check succeeds wherever
it has what it needs to ask and its requests are answered; there it asks for what lies above the
cursor. The inbox can be built at the start and at any time after. -/
theorem mentions_given_exactly_once (feed : Feed) {t₀ : Files}
    {old₀ : Option (List (String × Json))} {c₀ : Option Int} (hold : Cursor.Holds t₀ old₀)
    (hcursor : Stands (Inbox.stored old₀ feed.platform.key) c₀) {scene : Scene feed.platform}
    {log : List Entry} (hrun : Run feed.platform t₀ scene log) :
    (∃ batch, ExactlyOnce feed.platform c₀ log batch) ∧
      (∀ w : World, feed.platform.reaches w = true →
        ∃ c, Stands (feed.platform.lastSeen scene.inbox) c ∧ ∃ sent,
          feed.platform.requests (feed.platform.check scene.inbox w).2 =
            feed.platform.requests w ++ sent ∧
          ∃ r ∈ sent, feed.platform.Asks scene.inbox c r) ∧
      ∀ t ∈ [t₀, scene.files], ∀ w : World, SameCursorFile t w.files →
        ∃ s, feed.platform.build w = (.ok s, w) := by
  obtain ⟨⟨old, c, hsettled⟩, -⟩ := due_of_run feed.lawful hold hcursor hrun
  refine ⟨⟨_, exactlyOnce_of_run feed.lawful hold hcursor hrun⟩, fun w hreaches => ?_,
    fun t ht w hw => ?_⟩
  · exact ⟨c, hsettled.stands, feed.lawful.check_asks hsettled.stands hreaches⟩
  · have hholds : ∃ fields, Cursor.Holds t fields := by
      rcases List.mem_pair.mp ht with rfl | rfl
      · exact ⟨old₀, hold⟩
      · exact ⟨old, hsettled.holds⟩
    obtain ⟨fields, hfields⟩ := hholds
    obtain ⟨s, hbuild, -⟩ := feed.lawful.build_ok (hw.holds hfields)
    exact ⟨s, hbuild⟩

/-! ## Runs with a failure and a restart -/

/-- Something appears; a check fails; the inbox is built again; something else appears; two checks
succeed. -/
def restartLog (a b : Json) (given : List Json) : List Entry :=
  [.appeared a, .checked false (.ok []), .rebuilt, .appeared b, .checked true (.ok given),
    .checked true (.ok [])]

theorem run_restartLog {P : Platform} {a b : Json} (ha : P.WellFormed a) (ha' : Identified a)
    (hb : P.WellFormed b) (hb' : Identified b) (hless : numberOf a < numberOf b)
    {s seen : P.Inbox} {w w₁ w₂ w' w₁' w₂' : World} {given : List Json}
    (hbuild : P.build w = (.ok s, w)) (hfiles : w.files = {}) (hfiles' : w'.files = {})
    (hfailed : P.check s w = ((.ok [], s), w')) (hno : P.reaches w = false)
    (hattended : P.Attended [a] w w')
    (hfiles₁ : w₁.files = {}) (hgiven : P.check s w₁ = ((.ok given, seen), w₁'))
    (hyes₁ : P.reaches w₁ = true) (hattended₁ : P.Attended [a, b] w₁ w₁')
    (hfiles₂ : w₂.files = w₁'.files) (hagain : P.check seen w₂ = ((.ok [], seen), w₂'))
    (hyes₂ : P.reaches w₂ = true) (hattended₂ : P.Attended [a, b] w₂ w₂') :
    ∃ scene, Run P {} scene (restartLog a b given) := by
  have hsame {t t' : Files} (h : t' = t) : SameCursorFile t t' := by
    subst h
    exact ⟨rfl, rfl⟩
  have hstart : Run P {} ⟨[], s, w.files⟩ [] := .start (hsame hfiles) hbuild
  have hfirst := (hstart.appear ha ha' (by simp)).check (hsame rfl) hfailed hattended
  have hrebuilt := hfirst.rebuild (hsame (hfiles.trans hfiles'.symm)) hbuild
  have hsecond := hrebuilt.appear hb hb' (by simpa using hless)
  have hboth := hsecond.check (hsame (hfiles₁.trans hfiles.symm)) hgiven hattended₁
  have hlast := hboth.check (hsame hfiles₂) hagain hattended₂
  rw [hno, hyes₁, hyes₂] at hlast
  exact ⟨_, hlast⟩

/-- In such a run the first item is given by the check at the place 4 and by no other. -/
theorem ExactlyOnce.mem_restartLog_iff {P : Platform} {a b : Json} {given : List Json}
    {batch : Nat → List Json} (h : ExactlyOnce P none (restartLog a b given) batch)
    (ha : P.isMention a = true) (j : Nat) : a ∈ batch j ↔ j = 4 := by
  have hfirst : FirstSuccess (restartLog a b given) 0 4 := by
    refine ⟨by decide, ⟨_, rfl⟩, fun k hk hk4 r hr => ?_⟩
    match k with
    | 1 | 2 | 3 => cases hr
  rw [h.first 0 a rfl ha rfl]
  exact ⟨fun hj => hj.unique hfirst, fun hj => hj ▸ hfirst⟩

/-- A notification of a mention. -/
def greeting : Json :=
  .obj [("id", .str "1"), ("type", .str "mention"),
    ("status", .obj [("id", .str "10"), ("content", .str "hello")]),
    ("account", .obj [("acct", .str "reader")])]

def newFollower : Json := .obj [("id", .str "2"), ("type", .str "follow")]

/-- An inbox as it is built without a file. -/
def freshInbox : MastodonInbox := { server := "https://fosstodon.org" }

/-- A world with a token, some files and an answer of the server. -/
def answering (files : Files) (answer : Scripted Http.Reply) : World where
  clock := ⟨0⟩
  draws := ⟨[], 0⟩
  environment := [("MASTODON_ACCESS_TOKEN", "secret")]
  files := files
  http := [answer]

def listing (items : List Json) : Scripted Http.Reply := .gives { json := some (.arr items) }

/-- The value that is made of the greeting. -/
def greetingGiven : Json :=
  .obj [("id", .str "10"), ("text", .str "hello"), ("author", .str "reader"),
    ("visibility", .str "public")]

/-- The follower does not move the cursor and is listed again by the last check. -/
theorem run_greeting :
    ∃ scene, Run MastodonInbox.platform {} scene
      (restartLog greeting newFollower [greetingGiven]) := by
  let w := answering {} (.fails "no route")
  let w₁ := answering {} (listing [newFollower, greeting])
  let w₂ := answering (MastodonInbox.check freshInbox w₁).2.files (listing [newFollower])
  let seen : MastodonInbox := { freshInbox with lastSeen := .str "1" }
  have hgreeting : MastodonInbox.WellFormed greeting :=
    ⟨⟨_, rfl⟩, fun _ => ⟨_, _, _, _, rfl, rfl, rfl, rfl⟩⟩
  have hgreeting' : Identified greeting :=
    ⟨.str "1", rfl, by decide, Text.sound_of_not_mem_mark (by decide), rfl⟩
  have hfollower : MastodonInbox.WellFormed newFollower := ⟨⟨_, rfl⟩, fun h => by cases h⟩
  have hfollower' : Identified newFollower :=
    ⟨.str "2", rfl, by decide, Text.sound_of_not_mem_mark (by decide), rfl⟩
  have hfailed : MastodonInbox.check freshInbox w =
      ((.ok [], freshInbox), (MastodonInbox.check freshInbox w).2) := rfl
  have hgiven : MastodonInbox.check freshInbox w₁ =
      ((.ok [greetingGiven], seen), (MastodonInbox.check freshInbox w₁).2) := rfl
  have hagain : MastodonInbox.check seen w₂ =
      ((.ok [], seen), (MastodonInbox.check seen w₂).2) := rfl
  have hattended : MastodonInbox.platform.Attended [greeting] w
      (MastodonInbox.check freshInbox w).2 :=
    ⟨_, [.fails "no route"], [], rfl, rfl, .cons trivial .nil⟩
  have hattended₁ : MastodonInbox.platform.Attended [greeting, newFollower] w₁
      (MastodonInbox.check freshInbox w₁).2 :=
    ⟨_, [listing [newFollower, greeting]], [], rfl, rfl, .cons (fun _ => rfl) .nil⟩
  have hattended₂ : MastodonInbox.platform.Attended [greeting, newFollower] w₂
      (MastodonInbox.check seen w₂).2 :=
    ⟨_, [listing [newFollower]], [], rfl, rfl, .cons (fun _ => rfl) .nil⟩
  have hfiles₂ : w₂.files = (MastodonInbox.check freshInbox w₁).2.files := rfl
  exact run_restartLog (P := MastodonInbox.platform) hgreeting hgreeting' hfollower hfollower'
    (by decide) rfl rfl rfl hfailed rfl hattended rfl hgiven rfl hattended₁ hfiles₂ hagain rfl
    hattended₂

/-- A tweet that mentions the user. -/
def hail (id : String) : Json :=
  .obj [("id", .str id), ("text", .str "hello"), ("author_id", .str "9"),
    ("conversation_id", .str id)]

/-- The value that is made of such a tweet. -/
def hailGiven (id : String) : Json :=
  .obj [("id", .str id), ("text", .str "hello"), ("author", .str "reader"),
    ("conversation_id", .str id)]

/-- The users that the tweets refer to. -/
def readers : Json :=
  .obj [("users", .arr [.obj [("id", .str "9"), ("username", .str "reader")]])]

/-- The answer of the service to a call for the user. -/
def introduction : Scripted Twitter.Answer := .gives (.result (.obj [("id", .str "7")]) .null)

/-- A world where the service tells who the user is and then gives an answer about mentions. -/
def tweeting (files : Files) (answer : Scripted Twitter.Answer) : World where
  clock := ⟨0⟩
  draws := ⟨[], 0⟩
  files := files
  twitter := [introduction, answer]

theorem namesUsers_readers : TwitterInbox.NamesUsers readers := by
  refine .inr ⟨_, rfl, fun v hv => ?_⟩
  cases hv
  refine ⟨_, rfl, fun u hu => ?_⟩
  rw [List.mem_singleton] at hu
  subst hu
  exact ⟨_, _, rfl, rfl, rfl⟩

/-- Both tweets are given by the first check that is answered. -/
theorem run_hail :
    ∃ scene, Run TwitterInbox.platform {} scene
      (restartLog (hail "1") (hail "2") [hailGiven "2", hailGiven "1"]) := by
  let both : Scripted Twitter.Answer := .gives (.result (.arr [hail "2", hail "1"]) readers)
  let nothing : Scripted Twitter.Answer := .gives (.result .null .null)
  let w := tweeting {} (.fails "no route")
  let w₁ := tweeting {} both
  let w₂ := tweeting (TwitterInbox.check {} w₁).2.files nothing
  let seen : TwitterInbox := { lastSeen := .str "2" }
  have hwell (id : String) : TwitterInbox.WellFormed (hail id) := ⟨_, _, _, rfl, rfl, rfl, rfl⟩
  have hone : Identified (hail "1") :=
    ⟨.str "1", rfl, by decide, Text.sound_of_not_mem_mark (by decide), rfl⟩
  have htwo : Identified (hail "2") :=
    ⟨.str "2", rfl, by decide, Text.sound_of_not_mem_mark (by decide), rfl⟩
  have hfailed : TwitterInbox.check {} w = ((.ok [], {}), (TwitterInbox.check {} w).2) := rfl
  have hgiven : TwitterInbox.check {} w₁ =
      ((.ok [hailGiven "2", hailGiven "1"], seen), (TwitterInbox.check {} w₁).2) := rfl
  have hagain : TwitterInbox.check seen w₂ =
      ((.ok [], seen), (TwitterInbox.check seen w₂).2) := rfl
  have hattended : TwitterInbox.platform.Attended [hail "1"] w (TwitterInbox.check {} w).2 :=
    ⟨_, [introduction, .fails "no route"], [], rfl, rfl, .cons trivial (.cons trivial .nil)⟩
  have hattended₁ : TwitterInbox.platform.Attended [hail "1", hail "2"] w₁
      (TwitterInbox.check {} w₁).2 :=
    ⟨_, [introduction, both], [], rfl, rfl,
      .cons trivial (.cons ⟨.inl rfl, namesUsers_readers⟩ .nil)⟩
  have hattended₂ : TwitterInbox.platform.Attended [hail "1", hail "2"] w₂
      (TwitterInbox.check seen w₂).2 :=
    ⟨_, [introduction, nothing], [], rfl, rfl,
      .cons trivial (.cons ⟨.inr ⟨rfl, rfl⟩, .inl rfl⟩ .nil)⟩
  have hfiles₂ : w₂.files = (TwitterInbox.check {} w₁).2.files := rfl
  exact run_restartLog (P := TwitterInbox.platform) (hwell _) hone (hwell _) htwo (by decide)
    rfl rfl rfl hfailed rfl hattended rfl hgiven rfl hattended₁ hfiles₂ hagain rfl hattended₂

/-- On both platforms, what appears before a failure and a restart is given by the check at the
place 4 and by no other. -/
theorem mentions_given_exactly_once_restart :
    Cursor.Holds {} none ∧
    (∃ scene, Run MastodonInbox.platform {} scene
        (restartLog greeting newFollower [greetingGiven]) ∧
      ∃ batch, ExactlyOnce MastodonInbox.platform none
          (restartLog greeting newFollower [greetingGiven]) batch ∧
        ∀ j, greeting ∈ batch j ↔ j = 4) ∧
    ∃ scene, Run TwitterInbox.platform {} scene
        (restartLog (hail "1") (hail "2") [hailGiven "2", hailGiven "1"]) ∧
      ∃ batch, ExactlyOnce TwitterInbox.platform none
          (restartLog (hail "1") (hail "2") [hailGiven "2", hailGiven "1"]) batch ∧
        ∀ j, hail "1" ∈ batch j ↔ j = 4 := by
  have hold : Cursor.Holds {} none := rfl
  have hcursor (feed : Feed) : Stands (Inbox.stored none feed.platform.key) none := rfl
  refine ⟨hold, ?_, ?_⟩
  · obtain ⟨scene, hrun⟩ := run_greeting
    obtain ⟨⟨batch, honce⟩, -⟩ :=
      mentions_given_exactly_once .mastodon hold (hcursor .mastodon) hrun
    exact ⟨scene, hrun, batch, honce, honce.mem_restartLog_iff rfl⟩
  · obtain ⟨scene, hrun⟩ := run_hail
    obtain ⟨⟨batch, honce⟩, -⟩ := mentions_given_exactly_once .twitter hold (hcursor .twitter) hrun
    exact ⟨scene, hrun, batch, honce, honce.mem_restartLog_iff rfl⟩

end Persona.Mention
