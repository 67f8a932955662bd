import Persona.Audience.Growth
import Persona.Broadcast.Basic
import Persona.Campaign.Basic
import Persona.Companion.CommandLine
import Persona.Delivery.Push
import Persona.Lineage.Life
import Persona.Mention.Watch
import Persona.Posting.Retry
import Persona.Psyche.Presentation
import Persona.Scribe.Conversation

/-!
# Programs

What can be started by name, and how it runs in a world where no service answers: a rehearsal, in
which everything that would be done is told line by line.
-/

namespace Persona.Program

/-- The programs, each with what it makes of its arguments. -/
def all : List (String × (List String → Act Unit)) :=
  [("audience", Audience.program), ("broadcast", fun _ => Broadcast.program),
   ("campaign", fun _ => Campaign.program), ("companion", Companion.program),
   ("delivery", fun _ => Delivery.program), ("lineage", Lineage.program),
   ("mention", fun _ => Mention.program), ("posting", fun _ => Posting.drain),
   ("psyche", fun _ => Psyche.present), ("scribe", Scribe.program)]

def usage : String := "usage: persona (" ++ "|".intercalate (all.map (·.1)) ++ ") [argument ...]\n"

/-! ## Rehearsal -/

/-- A world with a user who types the given lines, and without a service that answers. -/
def rehearsalWorld (lines : List String) : World :=
  { clock := Moment.ofDate ⟨2026, 1, 1⟩ (12 * 3600 * Moment.perSecond)
    draws := { numbers := [0.5] }
    input := lines.map some }

/-- An event as it is told. -/
def tell : Event → String
  | .out text => text
  | .log .info message => "INFO " ++ message ++ "\n"
  | .log .error message => "ERROR " ++ message ++ "\n"
  | .sleep seconds => "(sleep " ++ seconds.text ++ ")\n"
  | .http r => "(request " ++ r.url ++ ")\n"
  | .twitterClient _ => "(Twitter client)\n"
  | .twitter (.createTweet text _) => "(tweet " ++ text.text ++ ")\n"
  | .twitter (.getMe _) => "(Twitter profile)\n"
  | .twitter (.getMentions ..) => "(Twitter mentions)\n"
  | .prompt p => "(ask " ++ p.message.text ++ ")\n"
  | .run c => "(run " ++ " ".intercalate c.arguments ++ ")\n"
  | .discordStart _ => "(Discord client)\n"
  | .typing => "(typing)\n"
  | .reply text => "(reply " ++ text.text ++ ")\n"
  | .processCommands content => "(commands " ++ content.text ++ ")\n"
  | .serve host port => "(serve " ++ host ++ ":" ++ Number.intText port ++ ")\n"

/-- How a rehearsal ends: a last line, if there is one, and the exit code. -/
def ending : Except Fault Unit → String × Int
  | .ok _ => ("", 0)
  | .error (.exit code) => ("", code)
  | .error .interrupted => ("", 130)
  | .error f => (f.message ++ "\n", 1)

/-- Rehearse a program: what is told, and the exit code. -/
def rehearse (program : Act Unit) (lines : List String) : String × Int :=
  let (result, w) : Except Fault Unit × World := program (rehearsalWorld lines)
  let (last, code) := ending result
  (String.join (w.trace.map tell) ++ last, code)

/-- Rehearse the program that the first argument names. -/
def start (arguments lines : List String) : String × Int :=
  match arguments with
  | [] => (usage, 2)
  | name :: rest =>
    match Fields.get? all name with
    | some program => rehearse (program rest) lines
    | none => (usage, 2)

end Persona.Program
