import Persona.Text.Blank
import Persona.Text.Lowercase
import Persona.Text.Search

/-!
# Forms of several parts

The parts of such a form stand between marks on lines of their own. A part has a head, whose lines
name its properties, then a blank line, then its content. The reading of a form ends at the last
mark, which two dashes follow, or at the first part that is malformed; a form with too many parts
before that is refused.
-/

namespace Persona.Gateway.FormParts

/-- The most parts that a form may have. -/
def limit : Nat := 1000

/-! ## Lines -/

/-- What follows the line break at the front, if there is one. -/
def dropBreak? : List Char → Option (List Char)
  | '\r' :: '\n' :: cs => some cs
  | '\r' :: cs => some cs
  | '\n' :: cs => some cs
  | _ => none

def lines : List Char → List (List Char)
  | [] => [[]]
  | '\r' :: '\n' :: cs => [] :: lines cs
  | '\r' :: cs => [] :: lines cs
  | '\n' :: cs => [] :: lines cs
  | c :: cs =>
    match lines cs with
    | line :: rest => (c :: line) :: rest
    | [] => [[c]]

/-- Lines behind a first one, with each that starts with a blank joined to the one before it. -/
def joined (line : List Char) : List (List Char) → List (List Char)
  | [] => [line]
  | next :: rest =>
    match next with
    | ' ' :: more => joined (line ++ ' ' :: more) rest
    | '\t' :: more => joined (line ++ ' ' :: more) rest
    | next => line :: joined next rest

/-! ## Parts -/

/-- The head of a part, and what follows it from the break before the blank line on. The characters
of the head so far are given in reverse. -/
def takeHead? (head : List Char) : List Char → Option (List Char × List Char)
  | [] => none
  | '\r' :: '\n' :: '\r' :: '\n' :: cs => some (head.reverse, '\r' :: '\n' :: cs)
  | '\r' :: '\r' :: cs => some (head.reverse, '\r' :: cs)
  | '\n' :: '\n' :: cs => some (head.reverse, '\n' :: cs)
  | c :: cs => takeHead? (c :: head) cs

/-- A head is complete if a line of it says what the part is for. -/
def isComplete (head : List Char) : Bool :=
  match lines head with
  | [] => false
  | first :: rest => (joined first rest).any fun line =>
    Text.lower (Text.trim (String.ofList (line.takeWhile (· != ':')))) == "content-disposition"

/-- A blank between a mark and the end of its line. -/
def isGap (c : Char) : Bool := c == ' ' || c == '\t' || c == '\x0b' || c == '\x0c'

/-- The mark at the front with its line: whether it is the last one, and what follows it. -/
def dropMark? (mark cs : List Char) : Option (Bool × List Char) := do
  match ← Text.dropPattern? ('-' :: '-' :: mark) cs with
  | '-' :: '-' :: rest => return (true, rest)
  | rest => return (false, ← dropBreak? (rest.dropWhile isGap))

/-- What follows the first mark, which comes behind what `start` drops: none without a mark, or if
it is the last one. -/
def next? (mark : List Char) (start : List Char → Option (List Char)) :
    List Char → Option (List Char)
  | [] => none
  | c :: cs =>
    match (start (c :: cs)).bind (dropMark? mark) with
    | some (true, _) => none
    | some (false, rest) => some rest
    | none => next? mark start cs

/-- A text at the start of a part holds more than so many parts. -/
def exceedsFrom (mark : List Char) : Nat → List Char → Bool
  | allowed, cs =>
    match takeHead? [] cs with
    | none => false
    | some (head, rest) =>
      isComplete head && match allowed with
        | 0 => true
        | allowed + 1 => (next? mark dropBreak? rest).any (exceedsFrom mark allowed)

/-- A form with a given mark between its parts has too many of them. The first mark need not stand
on a line of its own. -/
def exceeds (mark form : String) : Bool :=
  (next? mark.toList some form.toList).any (exceedsFrom mark.toList limit)

end Persona.Gateway.FormParts
