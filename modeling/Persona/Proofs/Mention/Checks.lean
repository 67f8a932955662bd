import Persona.Mention.Inbox
import Persona.Proofs.Outcome
import Persona.Proofs.Service.Posting
import Persona.Proofs.World.Effects

/-!
# How a check runs

A fetch has two parts. First it asks the service and looks at the answers up to the newest mention;
this leaves the cursor and the file alone. If it finds a newest mention, it then moves the cursor
there, saves it, and only after that gives the mentions, taken apart. The second part is the same
for all platforms.

Main statements: `TwitterInbox.fetch_eq`, `MastodonInbox.fetch_eq`, `BlueskyInbox.fetch_eq`.
-/

namespace Persona.Mention

/-! ## The two parts of a fetch -/

/-- What a fetch finds before it moves the cursor: where to move it, and the mentions. -/
structure Found where
  newest : Json
  mentions : Except Mismatch (List Json)

section Conclude

variable {σ α : Type} (moved : Json → σ) (save : Json → Act Unit) (s : σ)

/-- The second part of a fetch: the cursor is moved and saved before the mentions are given. -/
def conclude : Except Fault (Option Found) × World → (Except Fault (List Json) × σ) × World
  | (.error f, w) => ((.error f, s), w)
  | (.ok none, w) => ((.ok [], s), w)
  | (.ok (some found), w) => match save found.newest w with
    | (.error f, w') => ((.error f, moved found.newest), w')
    | (.ok _, w') => ((found.mentions.mapError .mismatch, moved found.newest), w')

/-- A fetch from the state `s` whose first part is `ask`. -/
def Concludes (fetch : ActOn σ (List Json)) (ask : Act (Option Found)) : Prop :=
  ∀ w, fetch s w = conclude moved save s (ask w)

variable {moved save s}

/-- A step of the first part: an activity that does not touch the state. -/
theorem Concludes.bind {x : Act α} {fetch : α → ActOn σ (List Json)}
    {ask : α → Act (Option Found)} (h : ∀ a, Concludes moved save s (fetch a) (ask a)) :
    Concludes moved save s ((liftM x : ActOn σ α) >>= fetch) (x >>= ask) := by
  intro w
  rcases hx : x w with ⟨r, w'⟩
  cases r with
  | error e => rw [ActOn.bind_lift_of_error hx, Act.bind_of_error hx, conclude]
  | ok a => rw [ActOn.bind_lift_of_ok hx, Act.bind_of_ok hx, h a w']

/-- A step of the first part: a look at the state. -/
theorem Concludes.get {fetch : σ → ActOn σ (List Json)} {ask : Act (Option Found)}
    (h : Concludes moved save s (fetch s) ask) :
    Concludes moved save s (MonadState.get >>= fetch) ask := h

theorem Concludes.ite {c : Prop} [Decidable c] {fetch fetch' : ActOn σ (List Json)}
    {ask ask' : Act (Option Found)} (h : c → Concludes moved save s fetch ask)
    (h' : ¬c → Concludes moved save s fetch' ask') :
    Concludes moved save s (if c then fetch else fetch') (if c then ask else ask') := by
  split
  · next hc => exact h hc
  · next hc => exact h' hc

theorem Concludes.nothing : Concludes moved save s (pure []) (pure none) := fun _ => rfl

/-- The last steps: the cursor is moved and saved, and the mentions are given. -/
theorem Concludes.found {newest : Json} {mentions : Except Mismatch (List Json)}
    {step : σ → σ} {store : ActOn σ Unit} {give : ActOn σ (List Json)}
    (hstep : step s = moved newest)
    (hstore : ∀ w, store (moved newest) w = (((save newest w).1, moved newest), (save newest w).2))
    (hgive : ∀ w, give (moved newest) w = ((mentions.mapError .mismatch, moved newest), w)) :
    Concludes moved save s (do modify step; store; give) (pure (some ⟨newest, mentions⟩)) := by
  intro w
  have hmodify : (modify step : ActOn σ PUnit) s w = ((.ok ⟨⟩, moved newest), w) := by
    rw [ActOn.modify_apply, hstep]
  have hstored := hstore w
  change _ = conclude moved save s (.ok (some ⟨newest, mentions⟩), w)
  rcases hsave : save newest w with ⟨r, w'⟩
  rw [hsave] at hstored
  rw [ActOn.bind_of_ok hmodify, conclude, hsave]
  cases r with
  | error f => rw [ActOn.bind_of_error hstored]
  | ok a => rw [ActOn.bind_of_ok hstored, hgive]

/-- Mentions are given as they were taken apart, or not at all. -/
theorem lift_look (mentions : Except Mismatch (List Json)) (s : σ) (w : World) :
    (liftM (Act.look mentions) : ActOn σ (List Json)) s w =
      ((mentions.mapError .mismatch, s), w) := by
  cases mentions <;> rfl

/-- A fetch fails with failures only, which a check can report. -/
theorem isFailure_conclude {ask : Act (Option Found)} (hask : Act.Recoverable ask)
    (hsave : ∀ v, Act.Recoverable (save v)) {w : World} {f : Fault}
    (h : (conclude moved save s (ask w)).1.1 = .error f) : f.isFailure = true := by
  rcases hrun : ask w with ⟨r, w₁⟩
  rw [hrun] at h
  match r with
  | .error e =>
      cases h
      exact hask _ _ _ hrun
  | .ok none => cases h
  | .ok (some found) =>
      rcases hstore : save found.newest w₁ with ⟨r', w₂⟩
      rw [conclude, hstore] at h
      match r' with
      | .error e =>
          cases h
          exact hsave _ _ _ _ hstore
      | .ok _ =>
          cases hm : found.mentions with
          | error e =>
              rw [hm] at h
              cases h
              rfl
          | ok mentions =>
              rw [hm] at h
              cases h

/-- The end of a check: a failure is reported and nothing is given. -/
def report (line : String) :
    (Except Fault (List Json) × σ) × World → (Except Fault (List Json) × σ) × World
  | ((.ok mentions, s), w) => ((.ok mentions, s), w)
  | ((.error f, s), w) => ((.ok [], s), w.record (.out (line ++ f.message ++ "\n")))

theorem recover_eq_report {fetch : ActOn σ (List Json)} {w : World} (line : String)
    (h : ∀ f, (fetch s w).1.1 = .error f → f.isFailure = true) :
    recover fetch (fun f => do
      (Act.print (line ++ f.message) : Act Unit)
      return []) s w = report line (fetch s w) := by
  rcases hrun : fetch s w with ⟨⟨r, s'⟩, w'⟩
  cases r with
  | ok mentions => exact ActOn.recover_of_ok hrun
  | error f =>
      rw [ActOn.recover_of_failure hrun (h f (by rw [hrun]))]
      rfl

end Conclude

/-! ## The cursor file -/

namespace Cursor

theorem filing_contents : Act.Filing contents := by
  refine .bind (.readFile file) fun s => ?_
  cases Json.decode s with
  | ok v => exact .pure v
  | error e => exact .throw rfl

theorem filing_save (key : String) (v : Json) : Act.Filing (save key v) := by
  refine .bind (.fileExists file) fun here => ?_
  have hrest : ∀ old : Json, Act.Filing (Act.look (old.setField key v) >>= store) :=
    fun old => .bind (.look _) fun new => .writeFile file new.encode
  split
  · exact .bind filing_contents hrest
  · exact .bind (.pure _) hrest

theorem filing_saveFirst (key : String) (v : Json) : Act.Filing (saveFirst key v) := by
  refine .bind (.fileExists file) fun here => ?_
  have hrest : ∀ entries : Entries, Act.Filing (store (entries.put (.str key) v).json) :=
    fun entries => .writeFile file _
  split
  · exact .bind filing_contents fun old => .bind (.look _) hrest
  · exact .bind (.pure _) hrest

end Cursor

/-! ## Notifications -/

/-- A field of a notification is this text. -/
def hasText (n : Json) (key text : String) : Bool :=
  match n with
  | .obj fs => match Fields.get? fs key with
    | some (.str s) => s == text
    | _ => false
  | _ => false

theorem same_str (v : Json) (text : String) :
    v.same (.str text) = match v with
      | .str s => s == text
      | _ => false := by
  cases v <;> rfl

/-- Notifications that are objects are chosen by a field of theirs. -/
theorem filterM_hasText {ns : List Json} (h : ∀ n ∈ ns, ∃ fs, n = .obj fs) (key text : String) :
    ns.filterM (fun n => do return (← n.fieldOrNull key).same (.str text) :
      Json → Except Mismatch Bool) = .ok (ns.filter (hasText · key text)) := by
  apply Outcome.filterM_of_forall
  intro n hn
  obtain ⟨fs, rfl⟩ := h n hn
  change Except.ok (((Fields.get? fs key).getD .null).same (.str text)) = _
  rw [same_str, hasText]
  cases Fields.get? fs key with
  | none => rfl
  | some v => cases v <;> rfl

/-! ## Twitter -/

namespace TwitterInbox

/-- The call for the mentions of a user after the last one seen. -/
def mentionsCall (s : TwitterInbox) (user : Json) : Twitter.Call :=
  .getMentions (some user) ([("expansions", .str "author_id"),
    ("tweet.fields", .str "created_at,conversation_id")] ++
    if s.lastSeen.truthy then [("since_id", s.lastSeen)] else [])

/-- Tweets as mentions. -/
def mentions (data includes : Json) : Except Mismatch (List Json) := do
  let names ← userNames includes
  (← data.items).mapM (mention names)

/-- What is found in the answer to a call for mentions. -/
def find (data includes : Json) : Act (Option Found) := do
  if !data.truthy then return none
  let newest ← Act.look (data.first >>= (Twitter.attr · "id"))
  return some ⟨newest, mentions data includes⟩

/-- Ask for the user and then for the user's mentions. -/
def ask (s : TwitterInbox) : Act (Option Found) := do
  let (me, _) ← Act.twitter (.getMe none)
  if !me.truthy then return none
  let user ← Act.look (Twitter.attr me "id")
  let (data, includes) ← Act.twitter (s.mentionsCall user)
  find data includes

theorem fetch_eq (s : TwitterInbox) (w : World) :
    fetch s w = conclude (fun v => { s with lastSeen := v }) (Cursor.saveFirst key) s
      (ask s w) := by
  revert w
  change Concludes _ _ s fetch (ask s)
  unfold fetch ask find
  refine .bind fun me => ?_
  refine .ite (fun _ => .nothing) fun _ => ?_
  refine .get (.bind fun user => .bind fun answer => ?_)
  refine .ite (fun _ => .nothing) fun _ => ?_
  refine .bind fun newest => .found ?_ ?_ ?_
  · rfl
  · exact fun w => rfl
  · exact lift_look _ _

theorem asking_ask (s : TwitterInbox) : Act.Asking (ask s) := by
  refine .bind (.twitter _) fun me => .ite (.pure none) ?_
  refine .bind (.look _) fun user => .bind (.twitter _) fun answer => .ite (.pure none) ?_
  exact .bind (.look _) fun newest => .pure _

theorem quiet_makeClient (credentials : Twitter.Credentials) :
    Act.Quiet (Twitter.connect credentials) := by
  refine .bind (.record rfl rfl) fun _ => .bind .get fun w => ?_
  cases w.twitterClientError with
  | none => exact .pure ()
  | some text => exact .throw rfl

/-- A client can be made. -/
def canConnect (w : World) : Bool :=
  !w.notInstalled.contains "tweepy" && w.twitterClientError.isNone

theorem connect_result (w : World) : (connect w).1 = .ok (canConnect w) := by
  have hneed := Act.need_apply "tweepy" w
  unfold connect canConnect
  cases hmissing : w.notInstalled.contains "tweepy" with
  | true =>
      rw [hmissing] at hneed
      rw [Act.recover_of_failure (Act.bind_of_error hneed) rfl]
      rfl
  | false =>
      rw [hmissing] at hneed
      obtain ⟨credentials, hcredentials⟩ : ∃ c, Twitter.credentials w = (.ok c, w) := ⟨_, rfl⟩
      have hbearer : Act.getEnv "TWITTER_BEARER_TOKEN" w =
          (.ok (Fields.get? w.environment "TWITTER_BEARER_TOKEN"), w) := rfl
      have hclient := Twitter.connect_apply { credentials with
        bearerToken := some (Fields.get? w.environment "TWITTER_BEARER_TOKEN") } w
      cases herror : w.twitterClientError with
      | none =>
          rw [herror] at hclient
          rw [Act.recover_of_ok ((Act.bind_of_ok hneed).trans ((Act.bind_of_ok hcredentials).trans
            ((Act.bind_of_ok hbearer).trans (Act.bind_of_ok hclient))))]
          rfl
      | some text =>
          rw [herror] at hclient
          rw [Act.recover_of_failure ((Act.bind_of_ok hneed).trans
            ((Act.bind_of_ok hcredentials).trans ((Act.bind_of_ok hbearer).trans
            (Act.bind_of_error hclient)))) rfl]
          rfl

/-- Whether a client can be made or not, making one is only seen in the record. -/
theorem connect_apply (w : World) :
    ∃ trace, connect w = (.ok (canConnect w), { w with trace }) ∧
      trace.filterMap Event.call? = w.calls ∧ trace.filterMap Event.request? = w.requests := by
  have hneed : Act.Quiet (Act.need "tweepy") := by
    refine .bind .get fun w => ?_
    split
    · exact .throw rfl
    · exact .pure _
  have henv : ∀ name, Act.Quiet (Act.getEnv name) := fun name => .bind .get fun w => .pure _
  have hcredentials : Act.Quiet Twitter.credentials :=
    .bind (henv _) fun _ => .bind (henv _) fun _ => .bind (henv _) fun _ =>
      .bind (henv _) fun _ => .pure _
  obtain ⟨connected, trace, hrun, htrace⟩ : ∃ connected trace,
      connect w = (.ok connected, { w with trace }) ∧ trace.filterMap Event.call? = w.calls ∧
      trace.filterMap Event.request? = w.requests := by
    refine Act.Quiet.exists_ok_of_recover ?_ ?_ (fun f w => ⟨false, rfl⟩) w
    · exact .bind hneed fun _ => .bind hcredentials fun _ => .bind (henv _) fun _ =>
        .bind (quiet_makeClient _) fun _ => .pure true
    · exact fun f => .bind (.record rfl rfl) fun _ => .pure false
  have hresult := connect_result w
  rw [hrun] at hresult
  obtain rfl : connected = canConnect w := Except.ok.inj hresult
  exact ⟨trace, hrun, htrace⟩

/-- A check with a client is a fetch whose failure is reported. -/
theorem check_of_connected {s : TwitterInbox} {w w₁ : World} (h : connect w = (.ok true, w₁)) :
    check s w = report "Error fetching mentions: " (fetch s w₁) := by
  rw [check, ActOn.bind_lift_of_ok h, if_pos rfl]
  apply recover_eq_report
  rw [fetch_eq]
  exact fun f => isFailure_conclude (asking_ask s).recoverable
    fun v => (Cursor.filing_saveFirst key v).recoverable

theorem check_of_not_connected {s : TwitterInbox} {w w₁ : World}
    (h : connect w = (.ok false, w₁)) : check s w = ((.ok [], s), w₁) := by
  rw [check, ActOn.bind_lift_of_ok h]
  rfl

end TwitterInbox

/-! ## Mastodon -/

namespace MastodonInbox

/-- The request for the notifications after the last mention seen. -/
def request (s : MastodonInbox) (headers : List (String × String)) : Http.Request :=
  { method := .get
    url := s.server ++ "/api/v1/notifications"
    headers := some headers
    query := some (.obj ([("limit", .int 20)] ++
      if s.lastSeen.truthy then [("since_id", s.lastSeen)] else [])) }

/-- What is found in a reply. -/
def find (reply : Http.Reply) : Act (Option Found) := do
  if !reply.ok then return none
  let mentions ← Act.look (mentionsOf (← Act.body reply))
  match mentions with
  | [] => return none
  | newest :: _ =>
    let id ← Act.look (newest.field "id")
    return some ⟨id, mentions.mapM mention⟩

/-- Ask for the notifications. -/
def ask (s : MastodonInbox) (headers : List (String × String)) : Act (Option Found) := do
  find (← Act.http (s.request headers))

theorem fetch_eq (s : MastodonInbox) (headers : List (String × String)) (w : World) :
    fetch headers s w = conclude (fun v => { s with lastSeen := v }) (Cursor.save key) s
      (ask s headers w) := by
  revert w
  change Concludes _ _ s (fetch headers) (ask s headers)
  unfold fetch ask find
  refine .get (.bind fun reply => ?_)
  refine .ite (fun _ => .nothing) fun _ => ?_
  refine .bind fun body => .bind fun mentions => ?_
  cases mentions with
  | nil => exact .nothing
  | cons newest rest =>
      refine .bind fun id => .found ?_ ?_ ?_
      · rfl
      · exact fun w => rfl
      · exact lift_look _ _

theorem asking_ask (s : MastodonInbox) (headers : List (String × String)) :
    Act.Asking (ask s headers) := by
  refine .bind (.http _) fun reply => .ite (.pure none) ?_
  refine .bind (.body reply) fun body => .bind (.look _) fun mentions => ?_
  cases mentions with
  | nil => exact .pure none
  | cons newest rest => exact .bind (.look _) fun id => .pure _

/-- There is a token in the environment. -/
def hasToken (w : World) : Bool := isSet (Fields.get? w.environment "MASTODON_ACCESS_TOKEN")

/-- The header depends on the environment alone. -/
theorem headers_apply (w : World) :
    ∃ header, headers w = (.ok header, w) ∧ header.isSome = hasToken w := by
  unfold headers hasToken
  have henv : Act.getEnv "MASTODON_ACCESS_TOKEN" w =
      (.ok (Fields.get? w.environment "MASTODON_ACCESS_TOKEN"), w) := rfl
  rw [Act.bind_of_ok henv]
  cases Fields.get? w.environment "MASTODON_ACCESS_TOKEN" with
  | none => exact ⟨none, rfl, rfl⟩
  | some token =>
      refine ⟨_, rfl, ?_⟩
      rw [isSet]
      cases token.isEmpty <;> rfl

/-- A check with a token is a fetch whose failure is reported. -/
theorem check_of_token {s : MastodonInbox} {w : World} {header : List (String × String)}
    (h : headers w = (.ok (some header), w)) :
    check s w = report "Error fetching Mastodon mentions: " (fetch header s w) := by
  rw [check, ActOn.bind_lift_of_ok h]
  apply recover_eq_report
  rw [fetch_eq]
  exact fun f => isFailure_conclude (asking_ask s header).recoverable
    fun v => (Cursor.filing_save key v).recoverable

theorem check_of_no_token {s : MastodonInbox} {w : World} (h : headers w = (.ok none, w)) :
    check s w = ((.ok [], s), w) := by
  rw [check, ActOn.bind_lift_of_ok h]
  rfl

end MastodonInbox

/-! ## Bluesky -/

namespace BlueskyInbox

/-- The request for the notifications in the name of a session. -/
def request (headers : List (String × String)) : Http.Request :=
  { method := .get
    url := Bluesky.notificationsUrl
    headers := some headers
    query := some (.obj [("limit", .int 20)]) }

/-- Ask for the notifications. The mentions found are those newer than the newest one's time, to
which the cursor is going to be moved. -/
def ask (s : BlueskyInbox) : Act (Option Found) := do
  let reply ← Act.http (request (← Bluesky.authorization s.session))
  if !reply.ok then return none
  let mentions ← Act.look (mentionsOf (← Act.body reply))
  match mentions with
  | [] => return none
  | newest :: _ =>
    let time ← Act.look (newest.fieldOrNull "indexedAt")
    return some ⟨time, newer time mentions⟩

theorem fetch_eq (s : BlueskyInbox) (w : World) :
    fetch s w = conclude (fun v => { s with lastSeen := v }) (Cursor.save key) s (ask s w) := by
  revert w
  change Concludes _ _ s fetch (ask s)
  unfold fetch ask
  refine .get (.bind fun headers => .bind fun reply => ?_)
  refine .ite (fun _ => .nothing) fun _ => ?_
  refine .bind fun body => .bind fun mentions => ?_
  cases mentions with
  | nil => exact .nothing
  | cons newest rest =>
      refine .bind fun id => .found ?_ ?_ ?_
      · rfl
      · exact fun w => rfl
      · exact lift_look _ _

theorem asking_ask (s : BlueskyInbox) : Act.Asking (ask s) := by
  have hheaders : Act.Asking (Bluesky.authorization s.session) :=
    .bind (.look _) fun token => .pure _
  refine .bind hheaders fun headers => .bind (.http _) fun reply => .ite (.pure none) ?_
  refine .bind (.body reply) fun body => .bind (.look _) fun mentions => ?_
  cases mentions with
  | nil => exact .pure none
  | cons newest rest => exact .bind (.look _) fun id => .pure _

/-- Opening a session changes neither the cursor nor the files, whether it succeeds or not. -/
theorem login_apply (s : BlueskyInbox) (w : World) :
    ∃ v session w', login s w = ((.ok v, { s with session }), w') ∧ w'.files = w.files := by
  obtain ⟨handle, hhandle⟩ : ∃ handle, Act.getEnv "BLUESKY_HANDLE" w = (.ok handle, w) := ⟨_, rfl⟩
  obtain ⟨password, hpassword⟩ :
      ∃ password, Act.getEnv "BLUESKY_APP_PASSWORD" w = (.ok password, w) := ⟨_, rfl⟩
  have hasking : Act.Asking (Bluesky.login handle password) := .http _
  rw [login, ActOn.bind_lift_of_ok hhandle, ActOn.bind_lift_of_ok hpassword]
  split
  · exact ⟨.null, s.session, w, rfl, rfl⟩
  · have hfiles := hasking.files_eq w
    rcases hrun : Bluesky.login handle password w with ⟨r, w₁⟩
    rw [hrun] at hfiles
    cases r with
    | error f =>
        have hfailure := hasking.recoverable _ _ _ hrun
        rw [ActOn.recover_of_failure (ActOn.bind_lift_of_error hrun) hfailure]
        exact ⟨.null, s.session, _, rfl, hfiles⟩
    | ok reply =>
        by_cases hok : reply.ok = true
        · cases hjson : reply.json with
          | none =>
              refine ⟨.null, s.session,
                w₁.record (.out ("Bluesky login error: " ++ Fault.noBody.message ++ "\n")),
                ActOn.recover_of_failure (e := .noBody) ?_ rfl, hfiles⟩
              rw [ActOn.bind_lift_of_ok hrun, if_pos hok]
              exact ActOn.bind_lift_of_error (Act.body_of_none hjson w₁)
          | some v =>
              refine ⟨v, v, w₁, ActOn.recover_of_ok ?_, hfiles⟩
              rw [ActOn.bind_lift_of_ok hrun, if_pos hok,
                ActOn.bind_lift_of_ok (Act.body_of_some hjson w₁)]
              rfl
        · refine ⟨.null, s.session, w₁, ActOn.recover_of_ok ?_, hfiles⟩
          rw [ActOn.bind_lift_of_ok hrun, if_neg hok]
          rfl

/-- Making sure of a session changes neither the cursor nor the files. -/
theorem ensureSession_apply (s : BlueskyInbox) (w : World) :
    ∃ session w', ensureSession s w = ((.ok session.truthy, { s with session }), w') ∧
      w'.files = w.files := by
  rw [ensureSession, ActOn.bind_of_ok (ActOn.get_apply s w)]
  split
  · obtain ⟨v, session, w', hlogin, hfiles⟩ := login_apply s w
    have hdiscard : (discard login : ActOn BlueskyInbox PUnit) s w =
        ((.ok ⟨⟩, { s with session }), w') := by
      simp only [discard, Functor.discard, Functor.mapConst, ExceptT.map, ExceptT.mk,
        bind, StateT.bind, Function.comp, hlogin]
      rfl
    refine ⟨session, w', ?_, hfiles⟩
    rw [ActOn.bind_of_ok hdiscard]
    rfl
  · exact ⟨s.session, w, rfl, rfl⟩

/-- A check with a session is a fetch whose failure is reported. -/
theorem check_of_session {s s₁ : BlueskyInbox} {w w₁ : World}
    (h : ensureSession s w = ((.ok true, s₁), w₁)) :
    check s w = report "Error fetching Bluesky mentions: " (fetch s₁ w₁) := by
  rw [check, ActOn.bind_of_ok h, if_pos rfl]
  apply recover_eq_report
  rw [fetch_eq]
  exact fun f => isFailure_conclude (asking_ask s₁).recoverable
    fun v => (Cursor.filing_save key v).recoverable

end BlueskyInbox

end Persona.Mention
