import Persona.Companion.Basic

/-!
# The companion in a chat

It answers what is addressed to it, in the open or in private, and lets the rest pass.
-/

namespace Persona.Companion

/-- A message is addressed to the companion. -/
def isAddressed (m : ChatMessage) : Except Mismatch Bool := do
  if m.mentioned || m.direct then return true
  let lower := Text.lower (← m.content.asText "lower")
  return Text.startsWith lower "@phi" || Text.startsWith lower "phi,"

/-- A text without the leading characters that occur in a word. -/
def dropLeading (word text : String) : String :=
  Text.trimStartWhere (fun c => word.toList.contains c) text

/-- How an account is mentioned in a message. -/
def mentionOf (id : Nat) : String := "<@" ++ Number.natText id ++ ">"

/-- What the companion is asked in a message to the account with this id. -/
def question (id : Nat) (message : String) : String :=
  let text := Text.trim (Text.replace message (mentionOf id) "")
  let text := Text.trim (dropLeading "phi," (dropLeading "@phi" text))
  if text.isEmpty then "Tell me about yourself" else text

/-- Take a message from the chat. -/
def receive (m : ChatMessage) : Act Unit := do
  if m.own then return ()
  if ← Act.look (isAddressed m) then
    Act.record .typing
    let content ← Act.look (m.content.asText "replace")
    Act.record (.reply (← respondOnDiscord (.str (question (← get).account.id content))))

/-- Take part in the chat. -/
def joinChat : Act Unit := do
  if ← Act.isInstalled "discord" then
    let token ← Act.getEnvOr "DISCORD_BOT_TOKEN" ""
    if token.isEmpty then Act.print "DISCORD_BOT_TOKEN not set"
    else
      Act.record (.discordStart (some token))
      Act.print ("🌀 Phi is online as " ++ (← get).account.name)
      Act.eachMessage receive
  else Act.print "Discord.py not installed. Run: pip install discord.py"

/-! ## At the terminal -/

/-- Answer line after line; the user takes leave by a word or an interruption. -/
def answerLines : Nat → Act Unit
  | 0 => return ()
  | lines + 1 => do
    let goOn ← tryCatch
      (do
        let line := Text.trim (← Act.readLine "You: ")
        if ["quit", "exit", "q"].contains (Text.lower line) then return false
        unless line.isEmpty do
          let response ← respond (.str line) (.str "general") .null
          Act.print ("\n🌀 Phi: " ++ response.text ++ "\n")
        return true)
      fun f => match f with
        | .interrupted => return false
        | f => throw f
    if goOn then answerLines lines else return ()

def chat : Act Unit := do
  Act.print "🌀 Phi Bot - Interactive Mode"
  Act.print "Type 'quit' to exit\n"
  answerLines ((← get).input.length + 1)
  Act.print "\nGoodbye! 🌀"

end Persona.Companion
