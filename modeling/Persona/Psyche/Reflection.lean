import Persona.Chance
import Persona.Time.Moment

/-!
# Reflection

The record of what the agent did and what it makes of the last hour.
-/

namespace Persona.Psyche

structure Deed where
  action : String
  success : Bool
  notes : String
  time : Moment

/-- What a look back shows. -/
inductive Insight where
  | manyFailures
  | goingWell
  | balanced
  deriving DecidableEq, Repr

def Insight.text : Insight → String
  | manyFailures => "Many failures lately. Should I change approach?"
  | goingWell => "Going well! Maybe time to try something harder."
  | balanced => "Balanced progress. Keep steady."

structure Reflection where
  deeds : List Deed := []
  insights : List Insight := []
  last : Moment

namespace Reflection

def record (r : Reflection) (action : String) (success : Bool) (notes : String) (now : Moment) :
    Reflection :=
  { r with deeds := r.deeds ++ [⟨action, success, notes, now⟩] }

/-- Whether to reflect now: after half an hour to an hour, days not counted. -/
def isTime (r : Reflection) (now : Moment) : Chance Bool := do
  let limit ← Chance.between 1800 3600
  return limit < (Span.since now r.last).secondsWithinDay

/-- The deeds of the last hour, days not counted. -/
def recent (r : Reflection) (now : Moment) : List Deed :=
  r.deeds.filter fun d => (Span.since now d.time).secondsWithinDay < 3600

/-- What so many successes and failures mean. -/
def judge (successes failures : Nat) : Insight :=
  if successes * 2 < failures then .manyFailures
  else if failures * 3 < successes then .goingWell
  else .balanced

/-- Look back; a balanced picture is not kept as an insight. -/
def reflect (r : Reflection) (now : Moment) : Option Insight × Reflection :=
  let recent := r.recent now
  if recent.isEmpty then (none, r)
  else
    let successes := (recent.filter (·.success)).length
    let insight := judge successes (recent.length - successes)
    let insights := if insight == .balanced then r.insights else r.insights ++ [insight]
    (some insight, { r with insights, last := now })

/-- The last ten deeds and the last insight. -/
def journalEntry (r : Reflection) : String :=
  if r.deeds.isEmpty then "Nothing to report yet."
  else
    let deeds := r.deeds.drop (r.deeds.length - 10)
    let lines := deeds.map fun d => "  " ++ (if d.success then "✓" else "✗") ++ " " ++ d.action
    let insight := match r.insights.getLast? with
      | some i => ["\nInsight: " ++ i.text]
      | none => []
    "\n".intercalate (["Today's journey:"] ++ lines ++ insight)

end Reflection

end Persona.Psyche
