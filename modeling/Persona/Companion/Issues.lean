import Persona.Companion.Basic
import Persona.Delivery.Exchange

/-!
# Issues

A signed request may tell of a new issue or of a comment on one. The companion comments on those
that mention it.
-/

namespace Persona.Companion

/-- What the companion holds while it listens for requests. -/
structure Listener where
  token : Option String
  secret : String

/-- Begin to listen; none without the library for it. -/
def listen : Act (Option Listener) := do
  if ← Act.isInstalled "flask" then
    return some {
      token := ← Act.getEnv "GITHUB_TOKEN"
      secret := ← Act.getEnvOr "GITHUB_WEBHOOK_SECRET" "" }
  else
    Act.print "Flask not installed. Run: pip install flask"
    return none

namespace Listener

/-- Comment on an issue. -/
def comment (l : Listener) (repository issue : Json) (text : String) : Act Unit :=
  discard (Act.http {
    method := .post
    url := "https://api.github.com/repos/" ++ repository.text ++ "/issues/" ++ issue.text ++
      "/comments"
    json := some (.obj [("body", .str text)])
    headers := some [
      ("Authorization", "token " ++ l.token.getD "None"),
      ("Accept", "application/vnd.github.v3+json")] })

/-- Comment on the issue of a payload, if a text in it mentions the companion. -/
def answer (l : Listener) (payload body : Json) : Act Unit := do
  let body ← Act.look (body.asText "lower")
  if Text.contains (Text.lower body) "@phi" then
    let issue ← Act.look (payload.fieldOr "issue" (.obj []))
    let repository ← Act.look (payload.fieldOr "repository" (.obj []))
    let repository ← Act.look (repository.fieldOrNull "full_name")
    let number ← Act.look (issue.fieldOrNull "number")
    let response ← respondOnGithub (.str (Text.trim (Text.replace body "@phi" "")))
    l.comment repository number ("🌀 **Phi responds:**\n\n" ++ response.text)

def handle (l : Listener) (event : Option String) (payload : Json) : Act Unit := do
  match event with
  | some "issue_comment" =>
    let comment ← Act.look (payload.fieldOr "comment" (.obj []))
    l.answer payload (← Act.look (comment.fieldOr "body" (.str "")))
  | some "issues" =>
    let action ← Act.look (payload.fieldOrNull "action")
    if action.same (.str "opened") then
      let issue ← Act.look (payload.fieldOr "issue" (.obj []))
      l.answer payload (← Act.look (issue.fieldOr "body" (.str "")))
  | _ => return ()

/-- Take a signed request. -/
def receive (l : Listener) (a : Delivery.Arrival) : Act Delivery.Response :=
  Delivery.whenSigned l.secret a fun payload => do
    l.handle a.event? payload
    return { status := 200, json := some (.obj [("status", .str "ok")]) }

def site (l : Listener) : Delivery.Site where
  endpoints := [⟨"POST", "/webhook/github", l.receive⟩]
  folder := none

end Listener

end Persona.Companion
