import Persona.Psyche.Basic

/-!
# A presentation

The agent shows itself: a greeting, five moments of its day, and its journal.
-/

namespace Persona.Psyche

def say (text : String) : ActOn Psyche Unit := (Act.print text : Act Unit)

/-- One moment: a heartbeat, what it would do next, and how it is. -/
def showMoment : ActOn Psyche Unit := do
  heartbeat
  let s ← get
  let intent ← (s.decide : Act Intent)
  say ("Action: " ++ intent.name)
  say ("  " ++ (← speak (.status (.int 0) (.int 0))))
  say ""
  (Act.sleep (.whole 1) : Act Unit)

def showMoments : Nat → ActOn Psyche Unit
  | 0 => return ()
  | n + 1 => do
    showMoment
    showMoments n

/-- Everything that is shown. -/
def showAll : ActOn Psyche Unit := do
  say (← speak .greeting)
  say ""
  showMoments 5
  let s ← get
  say (← (do MonadExcept.ofExcept (s.journal (← Act.now)) : Act String))

def present : Act Unit := do
  let s ← Act.chance (create (Path.ofText ".") (← Act.now))
  discard (showAll.runFrom s)

end Persona.Psyche
