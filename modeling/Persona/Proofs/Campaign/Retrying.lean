import Persona.Campaign.Basic
import Persona.Proofs.Scribe.Announcing
import Persona.Proofs.World.Contacts

/-!
# Posting again and again

A post that is refused because the session has ended is made again in the name of a new session,
and that post may be refused in the same way. How the posting of a record goes is told by the
answers alone: `Posting` says which requests are made and whether the record gets posted. Nothing
in it bounds the number of posts.

Main statements:

* `postBluesky_posting`: the posting of a message goes as its answers say;
* `posts_beyond_iff_refused`: how many posts are made at least.
-/

namespace Persona

/-! ## Statuses -/

/-- A double is equal to one whole number at most. -/
theorem Number.eq_of_compareWhole {m n : Int} {x : Float}
    (hm : compareWhole m x = some .eq) (hn : compareWhole n x = some .eq) : m = n := by
  unfold compareWhole at hm hn
  cases hparts : parts x with
  | nan =>
      rw [hparts] at hm
      cases hm
  | infinite negative =>
      rw [hparts] at hm
      cases negative <;> cases hm
  | finite negative mantissa exponent =>
      rw [hparts] at hm hn
      have hm := Int.compare_eq_eq.mp (Option.some.inj hm)
      have hn := Int.compare_eq_eq.mp (Option.some.inj hn)
      have hpos : (twoPow (-exponent).toNat : Int) ≠ 0 :=
        Int.natCast_ne_zero.mpr (Nat.pos_iff_ne_zero.mp (Nat.two_pow_pos _))
      exact Int.eq_of_mul_eq_mul_right hpos (hm.trans hn.symm)

namespace Json

theorem compareNumbers?_of_same {v : Json} {n : Int} (h : v.same (.int n) = true) :
    v.compareNumbers? (.int n) = some (some .eq) := by
  cases v with
  | bool b => exact beq_iff_eq.mp h
  | int m => exact beq_iff_eq.mp h
  | float x => exact beq_iff_eq.mp h
  | null | str s | arr xs | obj fs => cases h

/-- A value is equal to one whole number at most. -/
theorem eq_of_same_int {v : Json} {m n : Int} (hm : v.same (.int m) = true)
    (hn : v.same (.int n) = true) : m = n := by
  have hm := compareNumbers?_of_same hm
  have hn := compareNumbers?_of_same hn
  have hwhole {a b : Int} (h : some (some (compare a b)) = some (some .eq)) : a = b :=
    Int.compare_eq_eq.mp (Option.some.inj (Option.some.inj h))
  cases v with
  | bool b => exact (hwhole hm).symm.trans (hwhole hn)
  | int k => exact (hwhole hm).symm.trans (hwhole hn)
  | float x =>
      have hswap {k : Int} (h : (Number.compareWhole k x).map Ordering.swap = some .eq) :
          Number.compareWhole k x = some .eq := by
        obtain ⟨o, ho, heq⟩ := Option.map_eq_some_iff.mp h
        cases o with
        | eq => exact ho
        | lt | gt => cases heq
      exact Number.eq_of_compareWhole (hswap (Option.some.inj hm)) (hswap (Option.some.inj hn))
  | null | str s | arr xs | obj fs => cases hm

end Json

theorem Http.Reply.status_unique {reply : Http.Reply} {a b : Int} (ha : reply.hasStatus a = true)
    (hb : reply.hasStatus b = true) : a = b := Json.eq_of_same_int ha hb

/-- What is caught is what the rest of an attempt leaves. -/
theorem ActOn.recover_congr {σ α : Type} {x y : ActOn σ α} {handler : Fault → ActOn σ α} {s s' : σ}
    {w w' : World} (h : x s w = y s' w') :
    recover x handler s w = recover y handler s' w' := by
  simp only [recover, tryCatch, tryCatchThe, MonadExceptOf.tryCatch, ExceptT.tryCatch, ExceptT.mk,
    bind, StateT.bind, h]

namespace Campaign

open Scribe (keysOf)
open World (Asked Same)

variable {c : Campaign} {w : World}

/-- A line is printed before a value is given. -/
theorem report_return {α : Type} (line : String) (a : α) (c : Campaign) (w : World) :
    ∃ w', (do
        (report line : Act Unit)
        return a : ActOn Campaign α) c w = ((.ok a, c), w') ∧ Same World.standing w w' :=
  ⟨_, rfl, Act.print_standing _ w⟩

/-! ## Logging in -/

section
variable (handle password : Option String)

/-- The request for a session. -/
def loginRequest : Http.Request where
  method := .post
  url := Bluesky.loginUrl
  json := some (.obj [
    ("identifier", Json.ofOption handle), ("password", Json.ofOption password)])

/-- The requests that a login makes: none unless both settings are there. -/
def logins : List Http.Request :=
  if isSet handle && isSet password then [loginRequest handle password] else []

/-- The session that a reply to a login opens; null if it opens none. -/
def sessionOf (reply : Http.Reply) : Json :=
  if reply.hasStatus 200 then reply.json.getD .null else .null

/-- The session that a login opens, by the answers to come. -/
def opens (answers : List (Scripted Http.Reply)) : Json :=
  match isSet handle && isSet password, Act.answered answers with
  | true, .ok reply => sessionOf reply
  | _, _ => .null

end

/-- What a login makes of the answer to its request. It keeps the session, and a reply that is none
is told. -/
theorem login_reply (reply : Http.Reply) (c : Campaign) (w : World) :
    ∃ c' w', recover
        (do
          if reply.hasStatus 200 then
            let session ← (Act.body reply : Act Json)
            set { c with session }
            return session
          else
            (report ("⚠️ Bluesky login failed: " ++ reply.status.text) : Act Unit)
            return .null)
        (fun f => do
          (report ("⚠️ Bluesky login error: " ++ f.message) : Act Unit)
          return .null : Fault → ActOn Campaign Json) c w =
        ((.ok (sessionOf reply), c'), w') ∧
      (∀ session, { c' with session } = { c with session }) ∧ Same World.standing w w' := by
  unfold sessionOf
  cases reply.hasStatus 200 with
  | false =>
      obtain ⟨w', hrun, hsame⟩ :=
        report_return ("⚠️ Bluesky login failed: " ++ reply.status.text) Json.null c w
      exact ⟨c, w', ActOn.recover_of_ok hrun, fun _ => rfl, hsame⟩
  | true =>
      rw [if_pos rfl, if_pos rfl]
      cases hjson : reply.json with
      | none =>
          rw [ActOn.recover_of_failure (ActOn.bind_lift_of_error (Act.body_of_none hjson w)) rfl]
          obtain ⟨w', hrun, hsame⟩ :=
            report_return ("⚠️ Bluesky login error: " ++ Fault.noBody.message) Json.null c w
          exact ⟨c, w', hrun, fun _ => rfl, hsame⟩
      | some session =>
          rw [ActOn.recover_of_ok (ActOn.bind_lift_of_ok (Act.body_of_some hjson w))]
          exact ⟨{ c with session }, w, rfl, fun _ => rfl, refl w⟩

theorem login_opens (c : Campaign) (w : World) :
    ∃ c' w', login c w = ((.ok (opens c.handle c.password w.http), c'), w') ∧
      (∀ session, { c' with session } = { c with session }) ∧
      Asked (logins c.handle c.password) w w' := by
  unfold login opens logins
  rw [ActOn.bind_of_ok (ActOn.get_apply c w)]
  cases isSet c.handle && isSet c.password with
  | false => exact ⟨c, w, rfl, fun _ => rfl, .ofSame rfl⟩
  | true =>
      have hasked := Act.http_asked (loginRequest c.handle c.password) w
      rw [if_pos rfl, if_pos rfl, ← Act.http_result (loginRequest c.handle c.password)]
      rcases hrun : Act.http (loginRequest c.handle c.password) w with ⟨r, w₁⟩
      rw [hrun] at hasked
      cases r with
      | ok reply =>
          obtain ⟨c', w', hreply, hkept, hsame⟩ := login_reply reply c w₁
          exact ⟨c', w', (ActOn.recover_congr (ActOn.bind_lift_of_ok hrun)).trans hreply, hkept,
            hasked.trans_same hsame⟩
      | error f =>
          obtain ⟨w', hsaid, hsame⟩ :=
            report_return ("⚠️ Bluesky login error: " ++ f.message) Json.null c w₁
          refine ⟨c, w', Eq.trans ?_ hsaid, fun _ => rfl, hasked.trans_same hsame⟩
          exact ActOn.recover_of_failure (ActOn.bind_lift_of_error hrun) (Act.http_failure hrun)

theorem renew_opens (c : Campaign) (w : World) :
    ∃ w', renew c w = ((.ok (opens c.handle c.password w.http),
        { c with session := opens c.handle c.password w.http }), w') ∧
      Asked (logins c.handle c.password) w w' := by
  obtain ⟨c', w', hlogin, hkept, hasked⟩ := login_opens c w
  refine ⟨w', ?_, hasked⟩
  rw [renew, ActOn.bind_of_ok hlogin, ActOn.bind_of_ok (ActOn.modify_apply _ c' w'), hkept]
  rfl

/-! ## One attempt -/

/-- Send a message in the name of a session. -/
def send (message session : Json) : Act Http.Reply := do
  let now ← Act.now
  let post ← Act.look (record message now)
  Bluesky.createPost session post

/-- The request that sends a message in the name of a session, if it can be sent. -/
def sends (message : Json) (now : Moment) (session : Json) : Option Http.Request :=
  match record message now, keysOf session with
  | .ok post, some (token, owner) => some {
      method := .post
      url := Bluesky.recordUrl
      headers := some [("Authorization", "Bearer " ++ token.text)]
      json := some (.obj [
        ("repo", owner), ("collection", .str Bluesky.postKind), ("record", post)]) }
  | _, _ => none

/-- What is no session cannot be sent with. -/
theorem sends_of_not_truthy (message : Json) (now : Moment) {session : Json}
    (h : session.truthy = false) : sends message now session = none := by
  have hkeys : keysOf session = none := by
    cases session with
    | obj fs =>
        cases fs with
        | nil => rfl
        | cons f fs => cases h
    | null | bool b | int n | float x | str s | arr xs => rfl
  unfold sends
  rw [hkeys]
  cases record message now <;> rfl

/-- A message is sent by one request, or it fails before it. -/
theorem send_cases (message session : Json) (w : World) :
    (∃ request, sends message w.clock session = some request ∧
      send message session w = Act.http request w) ∨
    sends message w.clock session = none ∧
      ∃ f, send message session w = (.error f, w) ∧ f.isFailure = true := by
  have hnow : Act.now w = (.ok w.clock, w) := rfl
  rw [send, Act.bind_of_ok hnow]
  unfold sends keysOf Bluesky.createPost Bluesky.authorization
  cases record message w.clock with
  | error e => exact .inr ⟨rfl, _, rfl, rfl⟩
  | ok post =>
      cases session.field "accessJwt" with
      | error e => exact .inr ⟨rfl, _, rfl, rfl⟩
      | ok token =>
          cases session.field "did" with
          | error e => exact .inr ⟨rfl, _, rfl, rfl⟩
          | ok owner => exact .inl ⟨_, rfl, rfl⟩

/-- A reply to a post that is the record made. -/
def accepts (reply : Http.Reply) : Bool :=
  match reply.hasStatus 200, reply.json with
  | true, some (.obj _) => true
  | _, _ => false

/-- What follows the reply to a post. -/
def conclude (again : ActOn Campaign Bool) (reply : Http.Reply) : ActOn Campaign Bool := do
  if reply.hasStatus 200 then
    let answer ← (Act.body reply : Act Json)
    let uri ← (Act.look (answer.fieldOr "uri" (.str "")) : Act Json)
    (report ("🦋 Bluesky: Posted! " ++ uri.text) : Act Unit)
    return true
  else if reply.hasStatus 401 then
    if (← renew).truthy then again else return false
  else
    (report ("⚠️ Bluesky error: " ++ reply.status.text) : Act Unit)
    return false

/-- A failure to post is told. -/
def excuse (f : Fault) : ActOn Campaign Bool := do
  (report ("⚠️ Bluesky error: " ++ f.message) : Act Unit)
  return false

theorem tryBluesky_succ (message : Json) (retries : Nat) :
    tryBluesky message (retries + 1) = (do
      let c : Campaign ← get
      let session ← if c.session.truthy then pure c.session else renew
      if session.truthy then
        recover (liftM (send message session) >>= conclude (tryBluesky message retries)) excuse
      else return false) := by
  rw [tryBluesky]
  simp only [send, ActOn.lift_bind, bind_assoc]
  rfl

/-! ## The posting of a record -/

/-- How the posting of a record goes that is sent by `sends` in the name of a session: the requests
made and whether it gets posted, by the answers to come. -/
inductive Posting (handle password : Option String) (sends : Json → Option Http.Request) :
    Json → List (Scripted Http.Reply) → List Http.Request → Bool → Prop
  /-- The record cannot be sent in the name of the session, if it is one. -/
  | unsent {session answers} (hsends : sends session = none) :
      Posting handle password sends session answers [] false
  | failed {session answers request f} (hsends : sends session = some request)
      (hanswer : Act.answered answers = .error f) :
      Posting handle password sends session answers [request] false
  | settled {session answers request reply} (hsends : sends session = some request)
      (hanswer : Act.answered answers = .ok reply) (hstatus : reply.hasStatus 401 = false) :
      Posting handle password sends session answers [request] (accepts reply)
  /-- The session has ended. The record is posted in the name of the next one. -/
  | refused {session answers request reply requests posted} (hsends : sends session = some request)
      (hanswer : Act.answered answers = .ok reply) (hstatus : reply.hasStatus 401 = true)
      (h : Posting handle password sends (opens handle password answers.tail)
        (answers.tail.drop (logins handle password).length) requests posted) :
      Posting handle password sends session answers
        (request :: logins handle password ++ requests) posted

/-- What is told of the reply to a post, unless the session has ended. -/
theorem conclude_settled {reply : Http.Reply} (hstatus : reply.hasStatus 401 = false)
    (again : ActOn Campaign Bool) (c : Campaign) (w : World) :
    ∃ w', recover (conclude again reply) excuse c w = ((.ok (accepts reply), c), w') ∧
      Same World.standing w w' := by
  unfold conclude accepts
  cases reply.hasStatus 200 with
  | false =>
      simp only [hstatus, Bool.false_eq_true, if_false]
      rw [ActOn.recover_of_ok rfl]
      exact report_return _ false c w
  | true =>
      rw [if_pos rfl]
      cases hjson : reply.json with
      | none =>
          rw [ActOn.recover_of_failure (ActOn.bind_lift_of_error (Act.body_of_none hjson w)) rfl]
          exact report_return _ false c w
      | some v =>
          rw [ActOn.recover_congr (ActOn.bind_lift_of_ok (Act.body_of_some hjson w))]
          cases v with
          | obj fs => exact ⟨_, rfl, Act.print_standing _ w⟩
          | null | bool b | int n | float x | str s | arr xs => exact report_return _ false c w

/-- A way to post a message goes as the answers say. -/
def Goes (post : ActOn Campaign Bool) (message session : Json) (c : Campaign) (w : World) : Prop :=
  ∃ requests posted c' w', post c w = ((.ok posted, c'), w') ∧ Asked requests w w' ∧
    Posting c.handle c.password (sends message w.clock) session w.http requests posted

/-- After a refusal the message is posted again in the name of the session that opens, if one
does. -/
theorem conclude_refused {reply : Http.Reply} (hstatus : reply.hasStatus 401 = true)
    {again : ActOn Campaign Bool} {message : Json} {c : Campaign} {w : World}
    (hagain : ∀ session w', Asked (logins c.handle c.password) w w' → session.truthy = true →
      Goes again message session { c with session } w') :
    ∃ requests posted c' w', recover (conclude again reply) excuse c w = ((.ok posted, c'), w') ∧
      Asked (logins c.handle c.password ++ requests) w w' ∧
      Posting c.handle c.password (sends message w.clock) (opens c.handle c.password w.http)
        (w.http.drop (logins c.handle c.password).length) requests posted := by
  have hother : reply.hasStatus 200 = false := by
    refine Bool.eq_false_iff.mpr fun h => ?_
    exact absurd (reply.status_unique h hstatus) (by decide)
  obtain ⟨w₁, hrenew, hasked⟩ := renew_opens c w
  unfold conclude
  simp only [hother, hstatus, Bool.false_eq_true, if_false, if_true]
  rw [ActOn.recover_congr (ActOn.bind_of_ok hrenew)]
  cases hsession : (opens c.handle c.password w.http).truthy with
  | false =>
      have hunsent := sends_of_not_truthy message w.clock hsession
      refine ⟨[], false, _, w₁, ActOn.recover_of_ok rfl, ?_, .unsent hunsent⟩
      rw [List.append_nil]
      exact hasked
  | true =>
      obtain ⟨requests, posted, c', w', hrun, hasked', hposting⟩ := hagain _ w₁ hasked hsession
      rw [hasked.clock, hasked.http] at hposting
      exact ⟨requests, posted, c', w', ActOn.recover_of_ok hrun, hasked.trans hasked', hposting⟩

/-- An attempt goes as the answers say if those that follow it do. -/
theorem attempt_goes {again : ActOn Campaign Bool} {message : Json} {c : Campaign} {w : World}
    (hagain : ∀ session w', w'.http.length < w.http.length → session.truthy = true →
      Goes again message session { c with session } w') (session : Json) :
    Goes (recover (liftM (send message session) >>= conclude again) excuse) message session c
      w := by
  obtain ⟨request, hsends, hsend⟩ | ⟨hsends, f, hrun, hfailure⟩ := send_cases message session w
  · have hasked := Act.http_asked request w
    have hanswer := Act.http_result request w
    rcases hrun : Act.http request w with ⟨r, w₁⟩
    rw [hrun] at hasked hanswer hsend
    cases r with
    | error f =>
        obtain ⟨w', hsaid, hsame⟩ := report_return ("⚠️ Bluesky error: " ++ f.message) false c w₁
        refine ⟨[request], false, c, w', Eq.trans ?_ hsaid, hasked.trans_same hsame, ?_⟩
        · exact ActOn.recover_of_failure (ActOn.bind_lift_of_error hsend) (Act.http_failure hrun)
        · exact .failed hsends hanswer.symm
    | ok reply =>
        unfold Goes
        rw [ActOn.recover_congr (ActOn.bind_lift_of_ok hsend)]
        cases hstatus : reply.hasStatus 401 with
        | false =>
            obtain ⟨w', htold, hsame⟩ := conclude_settled hstatus again c w₁
            exact ⟨[request], _, c, w', htold, hasked.trans_same hsame,
              .settled hsends hanswer.symm hstatus⟩
        | true =>
            have hagain' (session : Json) (w' : World)
                (hlogin : Asked (logins c.handle c.password) w₁ w') :
                session.truthy = true → Goes again message session { c with session } w' := by
              have hshorter := Act.length_tail_lt_of_answered hanswer.symm
              refine hagain session w' ?_
              rw [hlogin.http, hasked.http, List.length_singleton, List.drop_one, List.length_drop]
              omega
            obtain ⟨requests, posted, c', w', hcon, hasked', hposting⟩ :=
              conclude_refused hstatus hagain'
            rw [hasked.clock, hasked.http, List.length_singleton, List.drop_one] at hposting
            exact ⟨request :: logins c.handle c.password ++ requests, posted, c', w', hcon,
              hasked.trans hasked', .refused hsends hanswer.symm hstatus hposting⟩
  · obtain ⟨w', hsaid, hsame⟩ := report_return ("⚠️ Bluesky error: " ++ f.message) false c w
    refine ⟨[], false, c, w', Eq.trans ?_ hsaid, .ofSame hsame, .unsent hsends⟩
    exact ActOn.recover_of_failure (ActOn.bind_lift_of_error hrun) hfailure

theorem tryBluesky_goes (message : Json) {retries : Nat} {c : Campaign} {w : World}
    (hleft : w.http.length < retries) (hsession : c.session.truthy = true) :
    Goes (tryBluesky message retries) message c.session c w := by
  induction retries generalizing c w with
  | zero => exact absurd hleft (Nat.not_lt_zero _)
  | succ retries ih =>
      unfold Goes
      rw [tryBluesky_succ, ActOn.bind_of_ok (ActOn.get_apply c w), if_pos hsession,
        ActOn.bind_of_ok rfl]
      simp only [hsession, if_true]
      refine attempt_goes (fun session w' hshorter hsession' => ?_) c.session
      exact ih (c := { c with session }) (by omega) hsession'

/-- The requests for a session that come before the first post. -/
def firstLogins (c : Campaign) : List Http.Request :=
  if c.session.truthy then [] else logins c.handle c.password

/-- The session of the first post, by the answers to come. -/
def firstSession (c : Campaign) (answers : List (Scripted Http.Reply)) : Json :=
  if c.session.truthy then c.session else opens c.handle c.password answers

/-- The posting of a message goes as the answers say, after a login where there is no session. -/
theorem postBluesky_posting (message : Json) (c : Campaign) (w : World) :
    ∃ requests posted c' w', postBluesky message c w = ((.ok posted, c'), w') ∧
      Asked (c.firstLogins ++ requests) w w' ∧
      Posting c.handle c.password (sends message w.clock) (c.firstSession w.http)
        (w.http.drop c.firstLogins.length) requests posted := by
  have hleft : (do return (← get).http.length : Act Nat) w = (.ok w.http.length, w) := rfl
  rw [postBluesky, ActOn.bind_lift_of_ok hleft]
  unfold firstLogins firstSession
  by_cases hsession : c.session.truthy = true
  · rw [if_pos hsession, if_pos hsession]
    exact tryBluesky_goes message (Nat.lt_succ_self _) hsession
  · obtain ⟨w₁, hrenew, hasked⟩ := renew_opens c w
    rw [if_neg hsession, if_neg hsession, tryBluesky_succ, ActOn.bind_of_ok (ActOn.get_apply c w),
      if_neg hsession, ActOn.bind_of_ok hrenew]
    dsimp only
    cases hopened : (opens c.handle c.password w.http).truthy with
    | false =>
        refine ⟨[], false, _, w₁, rfl, ?_, .unsent (sends_of_not_truthy _ _ hopened)⟩
        rw [List.append_nil]
        exact hasked
    | true =>
        have hagain (session : Json) (w' : World) (hless : w'.http.length < w₁.http.length)
            (hsession' : session.truthy = true) :
            Goes (tryBluesky message w.http.length) message session { c with session } w' := by
          refine tryBluesky_goes (c := { c with session }) message ?_ hsession'
          rw [hasked.http, List.length_drop] at hless
          omega
        obtain ⟨requests, posted, c', w', hrun, hasked', hposting⟩ :=
          attempt_goes (c := { c with session := opens c.handle c.password w.http }) hagain
            (opens c.handle c.password w.http)
        rw [hasked.clock, hasked.http] at hposting
        exact ⟨requests, posted, c', w', hrun, hasked.trans hasked', hposting⟩

/-! ## How many posts are made -/

/-- The request makes a record. -/
def createsRecord (request : Http.Request) : Bool := request.url == Bluesky.recordUrl

theorem createsRecord_of_sends {message session : Json} {now : Moment} {request : Http.Request}
    (h : sends message now session = some request) : createsRecord request = true := by
  unfold sends at h
  split at h
  · cases h
    rfl
  · cases h

theorem countP_logins (handle password : Option String) :
    (logins handle password).countP createsRecord = 0 := by
  have hother : createsRecord (loginRequest handle password) = false := by
    have hurl : Bluesky.loginUrl ≠ Bluesky.recordUrl := by decide
    exact beq_eq_false_iff_ne.mpr hurl
  unfold logins
  split
  · rw [List.countP_singleton, hother]
    rfl
  · rfl

/-- So many posts in a row are refused, each of them followed by a session in the name of which the
record can be sent. -/
def refuses (handle password : Option String) (sends : Json → Option Http.Request) :
    Nat → Json → List (Scripted Http.Reply) → Bool
  | 0, session, _ => (sends session).isSome
  | times + 1, session, answers =>
    match sends session, Act.answered answers with
    | some _, .ok reply =>
      reply.hasStatus 401 && refuses handle password sends times
        (opens handle password answers.tail) (answers.tail.drop (logins handle password).length)
    | _, _ => false

theorem Posting.lt_countP_iff {handle password : Option String}
    {sends : Json → Option Http.Request}
    (hrecord : ∀ {session request}, sends session = some request → createsRecord request = true)
    {session : Json} {answers : List (Scripted Http.Reply)} {requests : List Http.Request}
    {posted : Bool} (h : Posting handle password sends session answers requests posted)
    (times : Nat) :
    times < requests.countP createsRecord ↔
      refuses handle password sends times session answers = true := by
  induction h generalizing times with
  | unsent hsends => cases times <;> simp [refuses, hsends]
  | failed hsends hanswer => cases times <;> simp [refuses, hsends, hanswer, hrecord hsends]
  | settled hsends hanswer hstatus =>
      cases times <;> simp [refuses, hsends, hanswer, hstatus, hrecord hsends]
  | refused hsends hanswer hstatus h ih =>
      rw [List.cons_append, List.countP_cons_of_pos (hrecord hsends), List.countP_append,
        countP_logins, Nat.zero_add]
      cases times with
      | zero => simp [refuses, hsends]
      | succ times =>
          rw [Nat.add_lt_add_iff_right, ih]
          simp [refuses, hsends, hanswer, hstatus]

/-- A message is posted more than so many times just when so many posts in a row are refused and
each time a new session opens. -/
theorem posts_beyond_iff_refused (message : Json) (c : Campaign) (w : World) :
    ∃ requests posted c' w', postBluesky message c w = ((.ok posted, c'), w') ∧
      w'.requests = w.requests ++ requests ∧
      ∀ times, times < requests.countP createsRecord ↔
        refuses c.handle c.password (sends message w.clock) times (c.firstSession w.http)
          (w.http.drop c.firstLogins.length) = true := by
  obtain ⟨requests, posted, c', w', hrun, hasked, hposting⟩ := postBluesky_posting message c w
  refine ⟨c.firstLogins ++ requests, posted, c', w', hrun, hasked.requests, fun times => ?_⟩
  have hfirst : c.firstLogins.countP createsRecord = 0 := by
    unfold firstLogins
    split
    · rfl
    · exact countP_logins c.handle c.password
  rw [List.countP_append, hfirst, Nat.zero_add]
  exact hposting.lt_countP_iff createsRecord_of_sends times

/-- A campaign without a session yet. -/
def newcomer : Campaign where
  discordUrl := none
  handle := some "h"
  password := some "p"

/-- The answer to a login, and one that says that the session has ended. -/
def welcome : Scripted Http.Reply :=
  .gives { json := some (.obj [("accessJwt", .str "j"), ("did", .str "d")]) }
def expired : Scripted Http.Reply := .gives { status := .int 401 }

/-- Two sessions end before their first post, the third one lasts. -/
def hastyWorld : World where
  clock := ⟨0⟩
  draws := ⟨[], 0⟩
  http := [welcome, expired, welcome, expired, welcome,
    .gives { json := some (.obj [("uri", .str "at://post/1")]) }]

/-- A message is posted three times. -/
theorem posts_three_times :
    ((postBluesky (.str "hello") newcomer hastyWorld).2.requests.countP createsRecord) = 3 := by
  decide +kernel

end Campaign

end Persona
