import Persona.Broadcast.Basic
import Persona.Campaign.Basic
import Persona.Mention.Watch
import Persona.Proofs.Lineage.Halting

/-!
# The kill switch stops posting

Each of the three posting loops looks for the kill switch at the start of a round, before it turns
to any service. So with the kill switch down at the start of a round, that round prints a line and
the program returns. A life goes on with the kill switch down, but it starts no command any more.

Main statement: `posting_and_commands_halt`.
-/

namespace Persona

open ActOn (marked)

/-! ## Rounds with the kill switch down -/

theorem Campaign.round_halts : Act.HaltsAtSwitch Campaign.round := by
  intro c w hw
  have hlook := Act.fileExists_killSwitch w
  rw [hw] at hlook
  obtain ⟨line, hhalted⟩ : ∃ line, isHalted w = (.ok true, w.record (.out line)) :=
    ⟨_, Act.bind_of_ok hlook⟩
  have hpost : postAll c w = ((.ok ⟨false, 0⟩, c), w.record (.out line)) := by
    rw [postAll, ActOn.bind_lift_of_ok hhalted]
    rfl
  refine ⟨line, ?_⟩
  rw [round, Act.bind_of_ok (ActOn.runFrom_of_ok hpost)]
  rfl

theorem Broadcast.round_halts : Act.HaltsAtSwitch Broadcast.round := by
  intro _ w hw
  have hlook := Act.fileExists_killSwitch w
  rw [hw] at hlook
  exact ⟨_, Act.bind_of_ok hlook⟩

theorem Mention.watchRound_halts (port : Port) : Act.HaltsAtSwitch (watchRound port) := by
  intro _ w hw
  have hlook := Act.fileExists_killSwitch w
  rw [hw] at hlook
  exact ⟨_, Act.bind_of_ok hlook⟩

/-! ## Programs with notes of their rounds -/

/-- The campaign, with a note of the world at the start of each round. -/
def Campaign.programMarking : ActOn (List World) Unit := do
  let c ← (load : Act Campaign)
  (report "🐕 Φ CM Daemon started" : Act Unit)
  (report ("📢 Platforms: " ++ ", ".intercalate c.platforms) : Act Unit)
  (report ("⏰ Posting every " ++ Number.natText (interval / 3600) ++ " hours") : Act Unit)
  (report "Touch 'kill.switch' to stop." : Act Unit)
  ActOn.rounds (marked round) (← (Act.sleepsLeft : Act Nat)) c

theorem Campaign.marked_program : Act.Marked programMarking program :=
  .bind _ fun c => .bind _ fun _ => .bind _ fun _ => .bind _ fun _ => .bind _ fun _ =>
    .bind _ fun left => .rounds round_halts left c

/-- The broadcast, with a note of the world at the start of each round. -/
def Broadcast.programMarking : ActOn (List World) Unit := do
  (load : Act Unit)
  (Act.print ("[" ++ (← (Act.now : Act Moment)).text ++ "] Multi-platform daemon started") :
    Act Unit)
  (Act.print "Touch 'kill.switch' to stop" : Act Unit)
  ActOn.rounds (marked round) (← (Act.sleepsLeft : Act Nat)) ()

theorem Broadcast.marked_program : Act.Marked programMarking program :=
  .bind _ fun _ => .bind _ fun _ => .bind _ fun _ => .bind _ fun _ => .bind _ fun left =>
    .rounds round_halts left ()

namespace Mention

/-- The watch, with a note of the world at the start of each round. -/
def watchMarking (port : Port) (hasPsyche : Bool) : ActOn (List World) Unit := do
  let now : ActOn (List World) Moment := (Act.now : Act Moment)
  let print (line : String) : ActOn (List World) Unit := (Act.print line : Act Unit)
  print ("[" ++ (← now).text ++ "] @phi mention responder started")
  print "Touch 'kill.switch' to stop"
  let responder := Responder.new hasPsyche (← now)
  let inboxes ← (openInboxes : Act (List Inbox))
  if inboxes.isEmpty then print "No platforms configured! Set API keys in .env"
  else
    if hasPsyche then
      let phase := Psyche.Phase.ofMoment (← now)
      print ("  Soul active: " ++ phase.name ++ " (" ++ phase.quality.name ++ "), energy: " ++
        Number.percent 0 phase.energy)
    print ""
    ActOn.rounds (marked (watchRound port)) (← (Act.sleepsLeft : Act Nat)) (responder, inboxes)

theorem marked_watch (port : Port) (hasPsyche : Bool) :
    Act.Marked (watchMarking port hasPsyche) (watch port hasPsyche) := by
  refine .bind _ fun _ => .bind _ fun _ => .bind _ fun _ => .bind _ fun now => ?_
  refine .bind _ fun inboxes => ?_
  split
  · exact .lift _
  · have hrounds := fun left => Act.Marked.rounds (watchRound_halts port) left
      (Responder.new hasPsyche now, inboxes)
    cases hasPsyche with
    | false => exact .bind _ fun _ => .bind _ hrounds
    | true => exact .bind _ fun _ => .bind _ fun _ => .bind _ fun _ => .bind _ hrounds

/-- The responder, with a note of the world at the start of each round. -/
def programMarking : ActOn (List World) Unit := do watchMarking .platforms (← (load : Act Bool))

theorem marked_program : Act.Marked programMarking program :=
  .bind _ fun hasPsyche => marked_watch _ hasPsyche

end Mention

/-! ## All programs -/

open Lineage.Member (live liveMarking noted_liveMarking started_of_halted)

/-- Once the kill switch is down at the start of a round, a posting loop prints a line and returns.
Once it is down at a moment of a life, no command is started. -/
theorem posting_and_commands_halt :
    Campaign.program.HaltsOnceSwitched Campaign.programMarking ∧
    Broadcast.program.HaltsOnceSwitched Broadcast.programMarking ∧
    Mention.program.HaltsOnceSwitched Mention.programMarking ∧
    ∀ m, (liveMarking.noting m).forget = live.runFrom m ∧
      ∀ w, ∀ moment ∈ (liveMarking.noting m).notes w, moment.Halted →
        (live.runFrom m w).2.started = moment.started :=
  ⟨Campaign.marked_program.haltsOnceSwitched, Broadcast.marked_program.haltsOnceSwitched,
    Mention.marked_program.haltsOnceSwitched,
    fun m => ⟨(Act.Noted.noting noted_liveMarking m).forget_eq, started_of_halted m⟩⟩

/-- A world without any service, in which the kill switch is put down in the first sleep. -/
def switchedInSleep : World where
  clock := ⟨0⟩
  draws := { numbers := [0.5] }
  limits := { kill := some 1 }

example :
    (Broadcast.programMarking.notes switchedInSleep).map (fun w => decide w.Halted) =
      [false, true] := by
  decide +kernel

end Persona
