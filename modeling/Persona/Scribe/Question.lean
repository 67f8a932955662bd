import Persona.Text.Blank
import Persona.Text.Digit
import Persona.Text.Lowercase
import Persona.Text.Search
import Persona.Text.Word

/-!
# Questions

What someone asks, without the names that the message is addressed to, and whether it calls for a
specification.
-/

namespace Persona.Scribe

/-- A letter without regard to case; the dotted and the dotless i are the same. -/
def sameLetter (letter c : Char) : Bool :=
  c == letter || c == letter.toUpper || (letter == 'i' && (c == 'İ' || c == 'ı'))

/-- A word, without regard to case, starts a text: what follows it. -/
def dropWord? : List Char → List Char → Option (List Char)
  | [], cs => some cs
  | _ :: _, [] => none
  | p :: ps, c :: cs => if sameLetter p c then dropWord? ps cs else none

/-- The length of the bot's name, with or without its ending, at the start of a text. -/
def nameSize (cs : List Char) : Nat :=
  match dropWord? ['@', 'p', 'h', 'i'] cs with
  | none => 0
  | some rest =>
    let bot := fun (cs : List Char) => (dropWord? ['b', 'o', 't'] cs).isSome
    match rest with
    | c :: tail =>
      if (c == '-' || c == '_') && bot tail then 8
      else if bot rest then 7
      else 4
    | [] => 4

/-- The length of a reference to a user by number at the start of a text. -/
def referenceSize (cs : List Char) : Nat :=
  match cs with
  | '<' :: '@' :: rest =>
    let digits := rest.takeWhile Text.isDigit
    if !digits.isEmpty && (rest.drop digits.length).head? == some '>' then digits.length + 3 else 0
  | _ => 0

/-- The length of the address at the start of a chat message. -/
def addressSize (cs : List Char) : Nat :=
  match nameSize cs with
  | 0 => referenceSize cs
  | n => n

/-- The length of a handle at the start of a text. -/
def handleSize (cs : List Char) : Nat :=
  match cs with
  | '@' :: rest =>
    match (rest.takeWhile Text.isWord).length with
    | 0 => 0
    | n => n + 1
  | _ => 0

/-- The question in a chat message. -/
def chatQuestion (message : String) : String :=
  Text.trim (String.ofList (Text.dropMatches addressSize 0 message.toList))

/-- The question in a tweet. -/
def tweetQuestion (tweet : String) : String :=
  Text.trim (String.ofList (Text.dropMatches handleSize 0 tweet.toList))

def hasAny (text : String) (triggers : List String) : Bool :=
  triggers.any fun t => Text.contains (Text.lower text) t

/-- A chat question calls for a specification: it has a word for it and more than twenty
characters. -/
def chatWantsSpec (question : String) : Bool :=
  hasAny question
    ["good parts", "what is", "how to", "explain", "create", "make", "generate", "spec for"] &&
    20 < Text.size question

/-- A question in a tweet calls for a specification. -/
def tweetWantsSpec (question : String) : Bool :=
  hasAny question ["good parts", "spec for", "create", "generate"]

/-- A chat message addresses the bot by name. -/
def namesBot (message : String) : Bool :=
  let lower := Text.lower message
  Text.contains lower "@phi-bot" || Text.contains lower "@phi"

end Persona.Scribe
