import Persona.Scribe.Basic

/-!
# Specifications

A specification as the language model writes it: a JSON object, perhaps inside a block of code.
Its fields are taken as they come.
-/

namespace Persona.Scribe

structure Spec where
  name : Json
  title : Json
  content : Json
  summary : Json
  highlights : Json
  category : Json

/-- The text of the first block of code that a mark opens. -/
def block (text mark : String) : String :=
  (Text.split ((Text.split text mark).getD 1 "") "```").headD ""

/-- The JSON text in a reply of the model. -/
def jsonText (reply : Json) : Except Mismatch String := do
  if ← reply.holds "```json" then return block (← reply.asText "split") "```json"
  else if ← reply.holds "```" then return block (← reply.asText "split") "```"
  else reply.asText "strip"

namespace Spec

def ofJson (v : Json) : Except Mismatch Spec := do
  let name ← v.field "name"
  let title ← v.field "title"
  let content ← v.field "content"
  let summary ← v.field "summary"
  let highlights ← v.field "highlights"
  let category ← v.fieldOr "category" (.str "examples")
  return { name, title, content, summary, highlights, category }

/-- The specification in a reply of the model. -/
def ofReply (reply : Json) : Except Fault Spec := do
  let text ← (jsonText reply).mapError .mismatch
  let v ← (Json.decode (Text.trim text)).mapError .decoding
  (ofJson v).mapError .mismatch

def prompt (question : Json) : String :=
  Text.ofLines [
    "The user asks: \"" ++ question.text ++ "\"", "",
    "Generate a Phi specification that answers this by capturing the essence in types and functions.",
    "Return valid JSON only, no markdown code blocks."]

end Spec

/-- Write a specification that answers a question; none if that fails. -/
def writeSpec (s : Scribe) (question : Json) : Act (Option Spec) := do
  if s.hasModel then
    recover
      (do
        let reply ← Act.ask {
          model := modelName
          maxTokens := 8000
          system := specInstructions
          message := .str (Spec.prompt question) }
        return some (← MonadExcept.ofExcept (Spec.ofReply reply)))
      fun f => do
        Act.print ("❌ Generation failed: " ++ f.message)
        return none
  else
    Act.print "❌ No Anthropic client - need ANTHROPIC_API_KEY"
    return none

end Persona.Scribe
