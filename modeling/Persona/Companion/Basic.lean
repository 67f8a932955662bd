import Persona.Companion.Instructions
import Persona.Text.Lowercase
import Persona.World.Act

/-!
# The companion

The companion talks about the language with whoever writes to it. What it says comes from a
language model, which gets the specifications that belong to the topic along with the message.
-/

namespace Persona.Companion

/-! ## Topics -/

/-- The words that show a topic, with the specifications that belong to it. -/
def topics : List (String × List String) :=
  [("quantum", ["examples/physics/quantum.phi", "examples/physics/phi-on-qm.phi"]),
   ("ai", ["examples/ai/ai.phi", "examples/ai/phi-on-ai.phi"]),
   ("neural", ["examples/ai/ai.phi", "examples/ai/phi-on-ai.phi"]),
   ("biology", ["examples/biology/biology.phi", "examples/meta/phi-on-biology.phi"]),
   ("hardware", ["examples/hardware/hardware.phi", "examples/meta/phi-on-hardware.phi"]),
   ("crypto", ["examples/crypto/crypto.phi"]),
   ("graphics", ["examples/graphics/graphics.phi"]),
   ("music", ["examples/music/music-theory.phi"]),
   ("economics", ["examples/economics/economics.phi"]),
   ("meta", ["examples/meta/phi-on-phi.phi"]),
   ("self", ["examples/meta/phi-on-phi.phi"])]

/-- The first topic that a message mentions. -/
def topicOf (message : String) : Option String :=
  (topics.find? fun t => Text.contains (Text.lower message) t.1).map (·.1)

/-- The specification that belongs to every topic. -/
def coreSpec : String := "specs/phi.phi"

/-- The specifications for a topic, in order and each once. -/
def specsFor (topic : Option String) : List String :=
  let chosen := match topic with
    | some t => (topics.filter fun x => Text.contains (Text.lower t) x.1).flatMap (·.2)
    | none => []
  ((chosen ++ [coreSpec]).eraseDups).mergeSort fun a b => a ≤ b

/-- The most characters of a specification that are shown. -/
def excerptSize : Nat := 2000

def excerpt (text : String) : String :=
  if excerptSize < Text.size text then Text.take excerptSize text ++ "\n... (truncated)" else text

/-- The folder of the specifications. -/
def specFolder : Path := Path.home.join "specs/phi-core"

/-- A specification as it is shown to the model; nothing if it is not there. -/
def showSpec (spec : String) : Act String := do
  let file := specFolder.join spec
  if ← Act.fileExists file then
    return "\n\n--- " ++ spec ++ " ---\n" ++ excerpt (← Act.readFile file)
  else return ""

/-- The specifications for a topic, if there is one, as they are shown to the model. -/
def context (topic : Json) : Act String := do
  let topic ← if topic.truthy then some <$> Act.look (topic.asText "lower") else pure none
  return String.join (← (specsFor topic).mapM showSpec)

/-! ## Responses -/

/-- How to write on each platform. -/
def platformNotes : List (String × String) :=
  [("twitter", "Keep response under 280 characters. Be punchy and memorable."),
   ("discord", "You can use Discord markdown. Be conversational and helpful."),
   ("github", "You can use GitHub markdown. Be technical and precise."),
   ("general", "Be helpful and informative.")]

/-- How to write on a platform; nothing if it is not a known one. -/
def noteFor (platform : Json) : Except Mismatch String := do
  match ← platform.lookable with
  | .str name => return (Fields.get? platformNotes name).getD ""
  | _ => return ""

def system (platform : Json) (note context : String) : String :=
  instructions ++ "\n\nPlatform: " ++ platform.text ++ "\n" ++ note ++
    (if context.isEmpty then "" else "\n\nRelevant Phi specs for reference:\n" ++ context)

/-- A text cut to a length that is given and not zero; three dots take the place of what is cut,
and a cut before the start counts from the end. Only a text can be cut, and only at a whole
length. -/
def limit (length text : Json) : Except Mismatch Json := do
  if !length.truthy then return text
  let size ← text.size
  if ← Json.compares .greater (.int size) length then
    match length.whole?, text with
    | none, .str _ => .error .notASliceEnd
    | none, .arr _ => .error .notASliceEnd
    | length, text => return .str (← text.cutAndMark (length.getD 0 - 3) "...")
  else return text

/-- Respond to a message on a platform, in a text of at most a given length. -/
def respond (message platform length : Json) : Act Json := do
  let text ← Act.look (message.asText "lower")
  let context ← context (Json.ofOption (topicOf text))
  let note ← Act.look (noteFor platform)
  let answer ← Act.ask {
    model := "claude-sonnet-4-20250514"
    maxTokens := 1024
    system := system platform note context
    message }
  Act.look (limit length answer)

def respondOnTwitter (message : Json) : Act Json := respond message (.str "twitter") (.int 280)

def respondOnDiscord (message : Json) : Act Json := respond message (.str "discord") (.int 2000)

def respondOnGithub (message : Json) : Act Json := respond message (.str "github") .null

def load : Act Unit := Act.need "anthropic"

end Persona.Companion
