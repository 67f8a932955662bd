import Persona.Gateway.HeaderDate
import Persona.Gateway.Request

/-!
# Fresh copies

A request may give the date of the copy of a file that is at hand, so that the file is sent only if
it has changed since. Files have no tags, so conditions on tags say nothing about them. All files
count as last changed at the same moment.
-/

namespace Persona.Gateway

/-- The file has not changed since the date of a header. -/
def unchangedSince (lastChange : Moment) (header : Option String) :
    Except Moment.RangeError Bool := do
  match header with
  | none => return false
  | some text => return (← HeaderDate.read text).any fun m => lastChange.micros ≤ m.micros

namespace Request

/-- A header that is there and not empty. -/
def filled? (r : Request) (name : String) : Option String :=
  (r.header? name).filter fun s => !s.isEmpty

/-- The copy at hand is as good as the file. -/
def hasCopy (r : Request) (lastChange : Moment) : Except Moment.RangeError Bool :=
  unchangedSince lastChange (r.header? "If-Modified-Since")

/-- A part of the file goes with the part at hand, which a header names by its date. Where it names
no date, the one of the copy counts. -/
def hasOtherPart (r : Request) (lastChange : Moment) : Except Moment.RangeError Bool := do
  match r.header? "If-Range" with
  | none => return true
  | some condition =>
    match ← HeaderDate.read condition with
    | some m => return lastChange.micros ≤ m.micros
    | none => r.hasCopy lastChange

end Request

end Persona.Gateway
