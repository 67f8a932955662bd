import Persona.Proofs.Companion.Responding
import Persona.Proofs.Delivery.Unsigned
import Persona.Proofs.Text.Bytes
import Persona.Proofs.Text.Letters
import Persona.Proofs.World.Contacts

/-!
# Comments on issues

A signed request tells of a comment or of an issue, with the repository, the number of the issue
and, as a rule, a text. Where the text mentions the companion, in any letter case, it comments on
the issue once. A text that is missing counts as an empty one, but a null in its place does not: the
request then comes to no response.

Main statements: `Delivery.whenSigned_of_isTrusted`, `Listener.answer_of_mentions`,
`notice_handled_iff`.
-/

namespace Persona

/-! ## Signed requests -/

namespace Delivery

variable {secret : String} {a : Arrival}

/-- The bytes that are handed over are signed, if there is a secret. -/
def Arrival.IsTrusted (a : Arrival) (secret : String) : Prop :=
  ∃ data, a.data = .ok data ∧
    (secret = "" ∨ ∃ key, Text.bytes? secret = some key ∧ a.IsSigned key data)

/-- The payload of a request that can be trusted is handled. -/
theorem whenSigned_of_isTrusted {payload : Json} (htrusted : a.IsTrusted secret)
    (hpayload : a.json = .ok payload) (handle : Json → Act Response) (w : World) :
    whenSigned secret a handle w = handle payload w := by
  obtain ⟨data, hdata, hsigned⟩ := htrusted
  have haccepts : accepts secret data (.str (a.signature?.getD "")) = .ok true := by
    rcases hsigned with rfl | ⟨key, hkey, hsigned⟩
    · rfl
    · exact accepts_of_isSigned hkey hsigned
  exact (whenSigned_of_accepts hdata haccepts handle w).1 payload hpayload

end Delivery

namespace Companion

/-! ## News of issues -/

/-- What stands in the place of a text. -/
inductive Body where
  | absent
  | null
  | words (text : String)

namespace Body

def value? : Body → Option Json
  | absent => none
  | null => some .null
  | words text => some (.str text)

/-- What the companion is asked in a text that mentions it. -/
def question : Body → String
  | words text => Text.trim (Text.replace text "@phi" "")
  | _ => ""

end Body

/-- A request tells of a comment on an issue, or of the issue itself. -/
inductive News where
  | comment
  | issue

namespace News

def event : News → String
  | comment => "issue_comment"
  | issue => "issues"

/-- The field of a payload whose object has the text. -/
def place : News → String
  | comment => "comment"
  | issue => "issue"

end News

/-- A payload that names a repository and an issue. -/
structure Notice where
  news : News
  fields : List (String × Json)
  repositoryFields : List (String × Json)
  issueFields : List (String × Json)
  textFields : List (String × Json)
  repository : String
  number : Int
  body : Body
  get?_repository : Fields.get? fields "repository" = some (.obj repositoryFields)
  get?_name : Fields.get? repositoryFields "full_name" = some (.str repository)
  get?_issue : Fields.get? fields "issue" = some (.obj issueFields)
  get?_number : Fields.get? issueFields "number" = some (.int number)
  get?_place : (Fields.get? fields news.place).getD (.obj []) = .obj textFields
  get?_body : Fields.get? textFields "body" = body.value?

namespace Notice

/-- The companion reads every comment, and an issue when it is opened. -/
def IsRead (n : Notice) : Prop :=
  n.news = .comment ∨ Fields.get? n.fields "action" = some (.str "opened")

/-- A comment by the companion is due: what it reads mentions it. -/
def IsDue (n : Notice) : Prop := n.IsRead ∧ ∃ text, n.body = .words text ∧ Text.Mentions text

/-- A signed request with the payload. -/
structure DeliveredBy (n : Notice) (a : Delivery.Arrival) (secret : String) : Prop where
  signed : a.IsTrusted secret
  event : a.event? = some n.news.event
  payload : a.json = .ok (.obj n.fields)

end Notice

namespace Listener

open Delivery (Response)

variable {l : Listener} {w : World} {n : Notice}

/-- The response to news that were handled. -/
def done : Response := { status := 200, json := some (.obj [("status", .str "ok")]) }

theorem receive_of_deliveredBy {a : Delivery.Arrival} (h : n.DeliveredBy a l.secret) (w : World) :
    l.receive a w = (l.handle (some n.news.event) (.obj n.fields) >>= fun _ => pure done) w := by
  rw [receive, Delivery.whenSigned_of_isTrusted h.signed h.payload, h.event]
  rfl

theorem handle_of_isRead (h : n.IsRead) (w : World) :
    l.handle (some n.news.event) (.obj n.fields) w =
      l.answer (.obj n.fields) (n.body.value?.getD (.str "")) w := by
  have hplace : Act.look ((Json.obj n.fields).fieldOr n.news.place (.obj [])) w =
      (.ok (.obj n.textFields), w) := congrArg (fun v => Act.look (.ok v) w) n.get?_place
  have hbody : Act.look ((Json.obj n.textFields).fieldOr "body" (.str "")) w =
      (.ok (n.body.value?.getD (.str "")), w) :=
    congrArg (fun v : Option Json => Act.look (.ok (v.getD (.str ""))) w) n.get?_body
  cases hnews : n.news with
  | comment =>
      rw [hnews] at hplace
      exact (Act.bind_of_ok hplace).trans (Act.bind_of_ok hbody)
  | issue =>
      have haction : Fields.get? n.fields "action" = some (.str "opened") :=
        h.resolve_left fun hcomment => by rw [hnews] at hcomment; cases hcomment
      have hlook : Act.look ((Json.obj n.fields).fieldOrNull "action") w =
          (.ok (.str "opened"), w) :=
        congrArg (fun v : Option Json => Act.look (.ok (v.getD .null)) w) haction
      rw [hnews] at hplace
      exact (Act.bind_of_ok hlook).trans
        ((Act.bind_of_ok hplace).trans (Act.bind_of_ok hbody))

theorem handle_of_not_isRead (h : ¬n.IsRead) (w : World) :
    l.handle (some n.news.event) (.obj n.fields) w = (.ok (), w) := by
  rw [Notice.IsRead, not_or] at h
  cases hnews : n.news with
  | comment => exact absurd hnews h.1
  | issue =>
      have hlook : Act.look ((Json.obj n.fields).fieldOrNull "action") w =
          (.ok ((Fields.get? n.fields "action").getD .null), w) := rfl
      have hother : ((Fields.get? n.fields "action").getD .null).same (.str "opened") = false := by
        cases haction : Fields.get? n.fields "action" with
        | none => rfl
        | some action =>
            cases action with
            | str text =>
                refine beq_eq_false_iff_ne.mpr fun htext => h.2 ?_
                rw [haction, htext]
            | _ => rfl
      refine (Act.bind_of_ok hlook).trans ?_
      rw [hother]
      rfl

/-! ## Comments -/

/-- A response as a comment shows it. -/
def responding (response : Json) : String := "🌀 **Phi responds:**\n\n" ++ response.text

/-- The request that comments on an issue. -/
def commenting (l : Listener) (repository : String) (number : Int) (text : String) :
    Http.Request where
  method := .post
  url := "https://api.github.com/repos/" ++ repository ++ "/issues/" ++ Number.intText number ++
    "/comments"
  json := some (.obj [("body", .str text)])
  headers := some [
    ("Authorization", "token " ++ l.token.getD "None"),
    ("Accept", "application/vnd.github.v3+json")]

theorem comment_eq (l : Listener) (repository : String) (number : Int) (text : String) :
    l.comment (.str repository) (.int number) text =
      Act.http (l.commenting repository number text) >>= fun _ => pure () := rfl

theorem answer_null (payload : Json) (w : World) :
    ∃ f, l.answer payload .null w = (.error f, w) := ⟨_, rfl⟩

theorem answer_of_not_mentions {text : String} (h : ¬Text.Mentions text) (payload : Json)
    (w : World) : l.answer payload (.str text) w = (.ok (), w) := by
  have htext : Act.look ((Json.str text).asText "lower") w = (.ok text, w) := rfl
  rw [answer, Act.bind_of_ok htext, if_neg (mt (Text.contains_lower_iff text).mp h)]
  rfl

/-- Where a text mentions the companion, it responds and then comments. -/
theorem answer_of_mentions {text : String} (h : Text.Mentions text) (w : World) :
    l.answer (.obj n.fields) (.str text) w =
      (respondOnGithub (.str (Body.words text).question) >>= fun response =>
        l.comment (.str n.repository) (.int n.number) (responding response)) w := by
  have htext : Act.look ((Json.str text).asText "lower") w = (.ok text, w) := rfl
  have hissue : Act.look ((Json.obj n.fields).fieldOr "issue" (.obj [])) w =
      (.ok (.obj n.issueFields), w) :=
    congrArg (fun v : Option Json => Act.look (.ok (v.getD (.obj []))) w) n.get?_issue
  have hrepository : Act.look ((Json.obj n.fields).fieldOr "repository" (.obj [])) w =
      (.ok (.obj n.repositoryFields), w) :=
    congrArg (fun v : Option Json => Act.look (.ok (v.getD (.obj []))) w) n.get?_repository
  have hname : Act.look ((Json.obj n.repositoryFields).fieldOrNull "full_name") w =
      (.ok (.str n.repository), w) :=
    congrArg (fun v : Option Json => Act.look (.ok (v.getD .null)) w) n.get?_name
  have hnumber : Act.look ((Json.obj n.issueFields).fieldOrNull "number") w =
      (.ok (.int n.number), w) :=
    congrArg (fun v : Option Json => Act.look (.ok (v.getD .null)) w) n.get?_number
  rw [answer, Act.bind_of_ok htext, if_pos ((Text.contains_lower_iff text).mpr h),
    Act.bind_of_ok hissue, Act.bind_of_ok hrepository, Act.bind_of_ok hname, Act.bind_of_ok hnumber]
  rfl

/-- There is nothing in the way of a comment: the specifications can be read that belong to the
question, and the service answers. -/
structure CanComment (question : String) (w : World) : Prop where
  legible : ∀ spec ∈ specsFor (topicOf question), Legible spec w
  answered : ∃ answer rest, w.http = .gives answer :: rest

/-- The model is no contact. -/
theorem respondOnGithub_of_legible {question : String} {reply : Json}
    {rest : List (Scripted (Option Json))}
    (h : ∀ spec ∈ specsFor (topicOf question), Legible spec w)
    (hmodel : w.model = .gives (some reply) :: rest) :
    ∃ w₁, respondOnGithub (.str question) w = (.ok reply, w₁) ∧
      World.Same World.standing w w₁ := by
  obtain ⟨context, hrespond⟩ := respond_of_legible h "github" .null
  have hask := Act.ask_apply (promptFor question "github" context) w
  rw [hmodel] at hask
  refine ⟨{ w.record (.prompt (promptFor question "github" context)) with model := rest }, ?_, ?_⟩
  · rw [respondOnGithub, hrespond, Act.bind_of_ok hask]
    rfl
  · exact World.standing_record (e := .prompt (promptFor question "github" context)) rfl w

theorem answer_of_canComment {text : String} {reply : Json} {rest : List (Scripted (Option Json))}
    (h : Text.Mentions text) (hcan : CanComment (Body.words text).question w)
    (hmodel : w.model = .gives (some reply) :: rest) :
    ∃ w', l.answer (.obj n.fields) (.str text) w = (.ok (), w') ∧
      w'.requests = w.requests ++ [l.commenting n.repository n.number (responding reply)] := by
  obtain ⟨w₁, hrespond, hsame⟩ := respondOnGithub_of_legible hcan.legible hmodel
  obtain ⟨answer, later, hhttp⟩ := hcan.answered
  have hleft : w₁.http = .gives answer :: later := (congrArg Standing.http hsame).trans hhttp
  have hasked := Act.http_asked (l.commenting n.repository n.number (responding reply)) w₁
  have hresult := Act.http_result (l.commenting n.repository n.number (responding reply)) w₁
  rw [hleft] at hresult
  rcases hrun : Act.http (l.commenting n.repository n.number (responding reply)) w₁ with ⟨r, w'⟩
  rw [hrun] at hasked hresult
  obtain rfl := hresult
  refine ⟨w', ?_, ((World.Asked.ofSame hsame).trans hasked).requests⟩
  rw [answer_of_mentions h, Act.bind_of_ok hrespond, comment_eq, Act.bind_of_ok hrun]
  rfl

theorem answer_of_not_canComment {text : String} {reply : Json}
    {rest : List (Scripted (Option Json))} (h : Text.Mentions text)
    (hcan : ¬CanComment (Body.words text).question w)
    (hmodel : w.model = .gives (some reply) :: rest) :
    ∃ f w', l.answer (.obj n.fields) (.str text) w = (.error f, w') := by
  rw [answer_of_mentions h]
  by_cases hlegible : ∀ spec ∈ specsFor (topicOf (Body.words text).question), Legible spec w
  · obtain ⟨w₁, hrespond, hsame⟩ := respondOnGithub_of_legible hlegible hmodel
    have hresult := Act.http_result (l.commenting n.repository n.number (responding reply)) w₁
    -- The model has used up none of the answers of the service.
    have hleft : w₁.http = w.http := congrArg Standing.http hsame
    rw [hleft] at hresult
    rw [Act.bind_of_ok hrespond, comment_eq]
    rcases hrun : Act.http (l.commenting n.repository n.number (responding reply)) w₁ with ⟨r, w'⟩
    rw [hrun] at hresult
    cases hhttp : w.http with
    | nil =>
        rw [hhttp] at hresult
        obtain rfl := hresult
        exact ⟨_, _, Act.bind_of_error hrun⟩
    | cons next later =>
        cases next with
        | gives answer => exact absurd ⟨hlegible, answer, later, hhttp⟩ hcan
        | fails words =>
            rw [hhttp] at hresult
            obtain rfl := hresult
            exact ⟨_, _, Act.bind_of_error hrun⟩
  · obtain ⟨f, hrespond⟩ := respond_of_not_legible hlegible "github" .null
    exact ⟨f, w, Act.bind_of_error hrespond⟩

/-! ## Requests -/

/-- A request is handled: the response says so, and the companion made the comment that is due, or
no request at all. -/
def Handles (l : Listener) (a : Delivery.Arrival) (n : Notice) (reply : Json) (w : World) : Prop :=
  ∃ w', l.receive a w = (.ok done, w') ∧
    (n.IsDue → w'.requests =
      w.requests ++ [l.commenting n.repository n.number (responding reply)]) ∧
    (¬n.IsDue → w'.requests = w.requests)

variable {a : Delivery.Arrival} {reply : Json}

theorem handles_of_handle {w' : World} (ha : n.DeliveredBy a l.secret)
    (hrun : l.handle (some n.news.event) (.obj n.fields) w = (.ok (), w'))
    (hdue : n.IsDue → w'.requests =
      w.requests ++ [l.commenting n.repository n.number (responding reply)])
    (hnone : ¬n.IsDue → w'.requests = w.requests) : l.Handles a n reply w := by
  refine ⟨w', ?_, hdue, hnone⟩
  rw [receive_of_deliveredBy ha, Act.bind_of_ok hrun]
  rfl

theorem not_handles_of_handle {w' : World} {f : Fault} (ha : n.DeliveredBy a l.secret)
    (hrun : l.handle (some n.news.event) (.obj n.fields) w = (.error f, w')) :
    ¬l.Handles a n reply w := by
  rintro ⟨w₁, hreceive, -⟩
  rw [receive_of_deliveredBy ha, Act.bind_of_error hrun] at hreceive
  cases hreceive

/-- News without a mention are handled in that nothing happens. -/
theorem handles_of_nothing (ha : n.DeliveredBy a l.secret) (hdue : ¬n.IsDue)
    (hrun : l.handle (some n.news.event) (.obj n.fields) w = (.ok (), w)) :
    l.Handles a n reply w :=
  handles_of_handle ha hrun (fun h => absurd h hdue) fun _ => rfl

end Listener

theorem not_mentions_empty : ¬Text.Mentions "" := by
  rw [← Text.contains_lower_iff]
  decide

theorem Notice.isDue_iff {n : Notice} {text : String} (hread : n.IsRead)
    (hbody : n.body = .words text) : n.IsDue ↔ Text.Mentions text := by
  refine ⟨fun ⟨_, text', hbody', h⟩ => ?_, fun h => ⟨hread, text, hbody, h⟩⟩
  obtain rfl := Body.words.inj (hbody.symm.trans hbody')
  exact h

namespace Listener

variable {l : Listener} {a : Delivery.Arrival} {n : Notice} {w : World} {reply : Json}
  {rest : List (Scripted (Option Json))} {text : String}

theorem handles_of_absent (ha : n.DeliveredBy a l.secret) (hread : n.IsRead)
    (hbody : n.body = .absent) : l.Handles a n reply w := by
  have hdue : ¬n.IsDue := by
    rintro ⟨-, text, htext, -⟩
    cases hbody.symm.trans htext
  refine handles_of_nothing ha hdue ?_
  rw [handle_of_isRead hread, hbody]
  exact answer_of_not_mentions not_mentions_empty _ w

theorem not_handles_of_null (ha : n.DeliveredBy a l.secret) (hread : n.IsRead)
    (hbody : n.body = .null) : ¬l.Handles a n reply w := by
  obtain ⟨f, hanswer⟩ := @answer_null l (.obj n.fields) w
  have hhandle := @handle_of_isRead l n hread w
  rw [hbody] at hhandle
  exact not_handles_of_handle ha (hhandle.trans hanswer)

/-- A text that is read is handled, unless it asks for a comment that cannot be made. -/
theorem handles_iff_of_words (ha : n.DeliveredBy a l.secret) (hread : n.IsRead)
    (hbody : n.body = .words text) (hmodel : w.model = .gives (some reply) :: rest) :
    l.Handles a n reply w ↔ (n.IsDue → CanComment n.body.question w) := by
  have hhandle := @handle_of_isRead l n hread w
  have hdue := Notice.isDue_iff hread hbody
  rw [hbody] at hhandle ⊢
  by_cases hmentions : Text.Mentions text
  · by_cases hcan : CanComment (Body.words text).question w
    · obtain ⟨w', hanswer, hrequests⟩ := answer_of_canComment hmentions hcan hmodel
      refine iff_of_true (handles_of_handle ha (hhandle.trans hanswer) (fun _ => hrequests) ?_)
        fun _ => hcan
      exact fun h => absurd (hdue.mpr hmentions) h
    · obtain ⟨f, w', hanswer⟩ := answer_of_not_canComment hmentions hcan hmodel
      exact iff_of_false (not_handles_of_handle ha (hhandle.trans hanswer))
        fun h => hcan (h (hdue.mpr hmentions))
  · have hnone : ¬n.IsDue := mt hdue.mp hmentions
    refine iff_of_true (handles_of_nothing ha hnone ?_) fun h => absurd h hnone
    exact hhandle.trans (answer_of_not_mentions hmentions _ w)

end Listener

/-! ## Deliveries -/

namespace Notice

/-- The signed request that delivers a payload. -/
def request (n : Notice) (key : List UInt8) : Gateway.Request where
  method := "POST"
  address := "/webhook/github"
  headers := [("X-GitHub-Event", n.news.event), ("X-Hub-Signature-256",
    Delivery.signature key (Text.asciiBytes (Json.obj n.fields).encode))]
  kind := some "application/json"
  body := Text.asciiBytes (Json.obj n.fields).encode

open Gateway (MediaType)
open Gateway.Request (headerName)

variable (n : Notice) (key : List UInt8)

/-- The headers of such a request are told apart. -/
theorem headerName_ne :
    headerName "X-GitHub-Event" ≠ headerName "Transfer-Encoding" ∧
      headerName "X-Hub-Signature-256" ≠ headerName "Transfer-Encoding" ∧
      headerName "X-GitHub-Event" ≠ headerName "X-Hub-Signature-256" := by
  decide +kernel

/-- JSON is no form. -/
theorem mediaType_json :
    (MediaType.read "application/json").isJson = true ∧
      (MediaType.read "application/json").isForm = false ∧
      (MediaType.read "application/json").partMark? = none := by
  decide +kernel

theorem isChunked_request : (n.request key).isChunked = false := by
  simp [Gateway.Request.isChunked, Gateway.Request.header?, request, headerName_ne]

theorem data_request : (n.request key).data = .ok (n.request key).body := by
  have hmedia : (n.request key).mediaType = MediaType.read "application/json" := rfl
  simp [Gateway.Request.data, Gateway.Request.hasTooManyParts, Gateway.Request.arrived, hmedia,
    mediaType_json, n.isChunked_request key]

theorem event?_request : (n.request key).arrival.event? = some n.news.event := by
  simp [Delivery.Arrival.event?, Gateway.Request.arrival, Gateway.Request.header?, request,
    headerName_ne.2.2.symm]

theorem isSigned_request : (n.request key).arrival.IsSigned key (n.request key).body := by
  simp [Delivery.Arrival.IsSigned, Delivery.Arrival.signature?, Gateway.Request.arrival,
    Gateway.Request.header?, request, headerName_ne.2.2]

theorem json_request (hplain : (Json.obj n.fields).Plain)
    (hwithin : (Json.obj n.fields).Within Json.depthLimit) :
    (n.request key).json = .ok (.obj n.fields) := by
  have hmedia : (n.request key).mediaType = MediaType.read "application/json" := rfl
  have harrived : (n.request key).arrived = Text.asciiBytes (Json.obj n.fields).encode := by
    rw [Gateway.Request.arrived, n.isChunked_request key]
    rfl
  rw [Gateway.Request.json, hmedia, mediaType_json.1, harrived,
    Json.decodeBytes_encode hplain hwithin]
  rfl

theorem deliveredBy_request {secret : String} (hkey : Text.bytes? secret = some key)
    (hplain : (Json.obj n.fields).Plain)
    (hwithin : (Json.obj n.fields).Within Json.depthLimit) :
    n.DeliveredBy (n.request key).arrival secret := by
  refine ⟨?_, n.event?_request key, ?_⟩
  · refine ⟨(n.request key).body, ?_, .inr ⟨key, hkey, n.isSigned_request key⟩⟩
    rw [Gateway.Request.arrival, n.data_request key]
  · rw [Gateway.Request.arrival, n.json_request key hplain hwithin]

end Notice

/-! ## Handling -/

/-- With a model that replies, signed news of an issue are handled exactly if no null is read in
place of a text, and nothing is in the way of a comment that is due. -/
theorem notice_handled_iff (l : Listener) {a : Delivery.Arrival} {n : Notice}
    (ha : n.DeliveredBy a l.secret) {w : World} {reply : Json}
    {rest : List (Scripted (Option Json))} (hmodel : w.model = .gives (some reply) :: rest) :
    l.Handles a n reply w ↔
      (n.IsRead → n.body ≠ .null) ∧ (n.IsDue → Listener.CanComment n.body.question w) := by
  by_cases hread : n.IsRead
  · -- Only a null comes to a fault whatever the world is like.
    cases hbody : n.body with
    | absent =>
        refine iff_of_true (Listener.handles_of_absent ha hread hbody)
          ⟨fun _ => Body.noConfusion, fun hdue => ?_⟩
        obtain ⟨-, text, htext, -⟩ := hdue
        cases hbody.symm.trans htext
    | null =>
        exact iff_of_false (Listener.not_handles_of_null ha hread hbody) fun h => h.1 hread rfl
    | words text =>
        rw [Listener.handles_iff_of_words ha hread hbody hmodel, hbody]
        exact (and_iff_right fun _ => Body.noConfusion).symm
  · have hdue : ¬n.IsDue := fun h => hread h.1
    exact iff_of_true
      (Listener.handles_of_nothing ha hdue (Listener.handle_of_not_isRead hread w))
      ⟨fun h => absurd h hread, fun h => absurd h hdue⟩

/-- A comment that mentions the companion in a letter case of its own. -/
def askingNotice : Notice where
  news := .comment
  fields := [("repository", .obj [("full_name", .str "a/b")]), ("issue", .obj [("number", .int 7)]),
    ("comment", .obj [("body", .str "@Phi what is a monad?")])]
  repositoryFields := [("full_name", .str "a/b")]
  issueFields := [("number", .int 7)]
  textFields := [("body", .str "@Phi what is a monad?")]
  repository := "a/b"
  number := 7
  body := .words "@Phi what is a monad?"
  get?_repository := rfl
  get?_name := rfl
  get?_issue := rfl
  get?_number := rfl
  get?_place := rfl
  get?_body := rfl

/-- An issue without a description. -/
def bareNotice : Notice where
  news := .issue
  fields := [("action", .str "opened"), ("repository", .obj [("full_name", .str "a/b")]),
    ("issue", .obj [("number", .int 7), ("body", .null)])]
  repositoryFields := [("full_name", .str "a/b")]
  issueFields := [("number", .int 7), ("body", .null)]
  textFields := [("number", .int 7), ("body", .null)]
  repository := "a/b"
  number := 7
  body := .null
  get?_repository := rfl
  get?_name := rfl
  get?_issue := rfl
  get?_number := rfl
  get?_place := rfl
  get?_body := rfl

/-- A world in which the model replies and the service takes a comment. -/
def writingWorld : World where
  clock := ⟨0⟩
  draws := ⟨[], 0⟩
  model := [.gives (some (.str "A monoid of endofunctors."))]
  http := [.gives { status := .int 201 }]

/-- What is known to the listener in that world. -/
def writingListener : Listener := ⟨some "tok", "sek"⟩

theorem sound_sample : ∀ s ∈ ["repository", "full_name", "a/b", "issue", "number", "comment",
    "body", "@Phi what is a monad?", "action", "opened"], Text.Sound s := by
  intro s hs
  apply Text.sound_of_not_mem_mark
  revert s
  decide

theorem seven_lt_tenPow : (7 : Int).natAbs < Number.tenPow Text.digitLimit :=
  Number.lt_tenPow_of_le (by decide : 7 < Number.tenPow 1) (by decide)

/-- The bytes of the listener's secret. -/
def writingKey : List UInt8 := [115, 101, 107]

theorem bytes?_writingListener : Text.bytes? writingListener.secret = some writingKey := rfl

theorem deliveredBy_askingNotice :
    askingNotice.DeliveredBy (askingNotice.request writingKey).arrival writingListener.secret := by
  refine askingNotice.deliveredBy_request _ bytes?_writingListener ?_ ?_
  · exact ⟨sound_sample _ (by simp), ⟨sound_sample _ (by simp), sound_sample _ (by simp), trivial⟩,
      sound_sample _ (by simp), ⟨sound_sample _ (by simp), trivial, trivial⟩,
      sound_sample _ (by simp), ⟨sound_sample _ (by simp), sound_sample _ (by simp), trivial⟩,
      trivial⟩
  · exact ⟨by decide, ⟨by decide, trivial, trivial⟩, ⟨by decide, seven_lt_tenPow, trivial⟩,
      ⟨by decide, trivial, trivial⟩, trivial⟩

theorem canComment_askingNotice :
    Listener.CanComment askingNotice.body.question writingWorld where
  legible := legible_of_no_files rfl (by decide +kernel)
  answered := ⟨_, _, rfl⟩

theorem notice_handled_asking :
    askingNotice.DeliveredBy (askingNotice.request writingKey).arrival writingListener.secret ∧
      askingNotice.IsDue ∧
      writingListener.Handles (askingNotice.request writingKey).arrival askingNotice
        (.str "A monoid of endofunctors.") writingWorld := by
  have hmentions : Text.Mentions "@Phi what is a monad?" := by
    rw [← Text.contains_lower_iff]
    decide +kernel
  refine ⟨deliveredBy_askingNotice, ⟨.inl rfl, _, rfl, hmentions⟩, ?_⟩
  exact (notice_handled_iff writingListener deliveredBy_askingNotice rfl).mpr
    ⟨fun _ => Body.noConfusion, fun _ => canComment_askingNotice⟩

theorem deliveredBy_bareNotice :
    bareNotice.DeliveredBy (bareNotice.request writingKey).arrival writingListener.secret := by
  refine bareNotice.deliveredBy_request _ bytes?_writingListener ?_ ?_
  · exact ⟨sound_sample _ (by simp), sound_sample _ (by simp),
      sound_sample _ (by simp), ⟨sound_sample _ (by simp), sound_sample _ (by simp), trivial⟩,
      sound_sample _ (by simp), ⟨sound_sample _ (by simp), trivial, sound_sample _ (by simp),
        trivial, trivial⟩, trivial⟩
  · exact ⟨by decide, trivial, ⟨by decide, trivial, trivial⟩,
      ⟨by decide, seven_lt_tenPow, trivial, trivial⟩, trivial⟩

/-- Without a description, the news of an issue come to no response. -/
theorem bare_issue_not_handled :
    bareNotice.DeliveredBy (bareNotice.request writingKey).arrival writingListener.secret ∧
      ¬writingListener.Handles (bareNotice.request writingKey).arrival bareNotice
        (.str "A monoid of endofunctors.") writingWorld :=
  ⟨deliveredBy_bareNotice,
    Listener.not_handles_of_null deliveredBy_bareNotice (.inr rfl) rfl⟩

end Companion

end Persona
