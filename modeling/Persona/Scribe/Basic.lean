import Persona.Scribe.Instructions
import Persona.Service.Bluesky
import Persona.Service.Twitter

/-!
# The scribe

The scribe answers questions, either in a few words or with a specification that it writes with
the help of a language model.
-/

namespace Persona

/-- What the scribe can use. -/
structure Scribe where
  /-- It can ask the language model. -/
  hasModel : Bool
  /-- It has a Twitter client. -/
  hasTwitter : Bool
  handle : Option String
  password : Option String

namespace Scribe

/-- Make a Twitter client: whether there is one. -/
def connect : Act Bool := do
  if ← Act.isInstalled "tweepy" then
    let credentials ← Twitter.credentials
    tryCatch (do
      Twitter.connect credentials
      return true) fun _ => return false
  else return false

def create : Act Scribe := do
  let hasModel := (← Act.isInstalled "anthropic") && isSet (← Act.getEnv "ANTHROPIC_API_KEY")
  return {
    hasModel
    hasTwitter := ← connect
    handle := ← Act.getEnv "BLUESKY_HANDLE"
    password := ← Act.getEnv "BLUESKY_APP_PASSWORD" }

/-- Loading makes the scribe that answers in the chat, where there is a chat. -/
def load : Act (Option Scribe) := do
  if ← Act.isInstalled "discord" then return some (← create) else return none

def modelName : String := "claude-sonnet-4-20250514"

/-- Answer in a few words. -/
def answerBriefly (s : Scribe) (question : Json) : Act Json := do
  if s.hasModel then
    recover
      (Act.ask {
        model := modelName
        maxTokens := 2000
        system := answerInstructions
        message := question })
      fun f => return .str ("Error: " ++ f.message)
  else return .str "I need an ANTHROPIC_API_KEY to think."

end Scribe

end Persona
