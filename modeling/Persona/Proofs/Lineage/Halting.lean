import Persona.Proofs.Lineage.Inward
import Persona.Proofs.World.Halting

/-!
# No command once the kill switch is down

The founder looks for the kill switch before each hour of evolution, and only evolution starts
commands.

Main statements: `hour_leads`, `started_of_halted`.
-/

namespace Persona.Lineage.Member

open ActOn (Noted Recalls)
open World (Halting)

/-! ## An hour of evolution -/

/-- What comes of an hour of evolution. -/
inductive Hour where
  | halted
  | passed
  | ended (f : Fault)

/-- An hour of evolution, unless the kill switch is down. -/
def hour : Life Hour := do
  if ← (Act.existsWritten "kill.switch" : Act Bool) then return .halted
  else match ← evolveOnce with
    | some f => return .ended f
    | none => return .passed

theorem hour_of_halted {w : World} (h : w.Halted) (m : Member) :
    hour m w = ((.ok .halted, m), w) := by
  have hlook := Act.existsWritten_killSwitch w
  rw [h] at hlook
  exact ActOn.bind_lift_of_ok hlook

theorem hour_leads : hour.Leads Halting := by
  intro m w hhalted
  rw [hour_of_halted hhalted]
  exact ⟨hhalted, rfl⟩

theorem evolve_succ (rounds : Nat) : evolve (rounds + 1) = (do
    match ← hour with
    | .halted => return ()
    | .ended f => endEvolution f
    | .passed =>
      (Act.sleep (.whole 3600) : Act Unit)
      evolve rounds) := by
  rw [evolve, hour, bind_assoc]
  congr 1
  funext halted
  cases halted with
  | true => exact (pure_bind _ _).symm
  | false =>
      change (evolveOnce >>= _) = (evolveOnce >>= _) >>= _
      rw [bind_assoc]
      congr 1
      funext next
      cases next <;> exact (pure_bind _ _).symm

/-! ## Lives with notes of their moments -/

def evolveMarking : Nat → ActOn (Member × List World) Unit
  | 0 => throw .interrupted
  | rounds + 1 => do
    ActOn.note fun _ w => w
    match ← ActOn.silent hour with
    | .halted => return ()
    | .ended f => ActOn.silent (endEvolution f)
    | .passed =>
      (Act.sleep (.whole 3600) : Act Unit)
      evolveMarking rounds

def evolveSeedMarking : ActOn (Member × List World) Unit := do
  ActOn.silent (info "Vector4: Initializing CM seed evolution loop...")
  evolveMarking (← (Act.sleepsLeft : Act Nat))
  ActOn.silent (info "Vector4: Kill switch detected - halting evolution")

def prepareMarking : ActOn (Member × List World) Unit := do
  ActOn.note fun _ w => w
  ActOn.silent introduce
  let m : Member ← ActOn.silent get
  let founder := m.generation.same (.int 0)
  if founder then
    ActOn.silent beginFounding
    ActOn.note fun _ w => w
  let deployed ← ActOn.silent deploy
  if founder then evolveSeedMarking
  if deployed then ActOn.silent celebrate
  ActOn.silent (info "Entering operational mode...")

def workMarking : ActOn (Member × List World) Unit := do
  let sleeps ← (Act.sleepsLeft : Act Nat)
  let logs ← (Act.logsLeft : Act Nat)
  let cycleMarking : ActOn (Member × List World) Unit := do
    ActOn.note fun _ w => w
    ActOn.silent cycle
  tryCatch (cycleMarking.forever (2 * sleeps + logs)) fun f => ActOn.silent (match f with
    | .interrupted => do
      info "Shutdown signal received"
      shutdown
    | f => throw f)

/-- A life with a note of the world at its start, after the founder's first sleep and at the start
of each hour and of each cycle. -/
def liveMarking : ActOn (Member × List World) Unit := do
  prepareMarking
  workMarking

theorem noted_evolveMarking (rounds : Nat) : Noted (evolveMarking rounds) (evolve rounds) := by
  induction rounds with
  | zero => exact .lift (throw .interrupted)
  | succ rounds ih =>
      rw [evolve_succ]
      refine .note_bind (.bind (.silent _) fun next => ?_) _
      cases next with
      | halted => exact .pure _
      | ended f => exact .silent _
      | passed => exact .bind (.lift _) fun _ => ih

theorem noted_evolveSeedMarking : Noted evolveSeedMarking evolveSeed :=
  .bind (.silent _) fun _ => .bind (.lift _) fun _ => .bind (noted_evolveMarking _) fun _ =>
    .silent _

theorem noted_prepareMarking : Noted prepareMarking prepare := by
  refine .note_bind (.bind (.silent _) fun _ => .bind (.silent _) fun m => ?_) _
  have hend (deployed : Bool) : Noted
      (do
        if deployed then ActOn.silent celebrate
        ActOn.silent (info "Entering operational mode...") : ActOn (Member × List World) Unit)
      (do
        if deployed then celebrate
        info "Entering operational mode...") := by
    cases deployed with
    | false => exact .silent _
    | true => exact .bind (.silent _) fun _ => .silent _
  cases hfounder : m.generation.same (.int 0) with
  | false => exact .bind (.silent _) hend
  | true =>
      refine .bind (.silent _) fun _ => .note_bind (.bind (.silent _) fun deployed => ?_) _
      exact .bind noted_evolveSeedMarking fun _ => hend deployed

theorem noted_workMarking : Noted workMarking work := by
  refine .bind (.lift _) fun _ => .bind (.lift _) fun _ => ?_
  exact .tryCatch (.forever (.note_bind (.silent _) _) _) fun f => .silent _

theorem noted_liveMarking : Noted liveMarking live :=
  .bind noted_prepareMarking fun _ => noted_workMarking

/-! ## What follows a moment -/

theorem beginFounding_secluded : beginFounding.Secluded := by
  refine .bind (.inward .get) fun m => ?_
  have hrest : ActOn.Secluded (do
      info "SEED daemon initializing recursive deployment sequence..."
      (Act.sleep (.whole 1) : Act Unit)) := .bind (.inward (info_inward _)) fun _ => .sleepFor _
  cases m.psyche with
  | none => exact hrest
  | some psyche => exact .bind (.inward (speak_inward _ _)) fun _ => hrest

theorem inward_leads_halting {α : Type} {x : Life α} (h : x.Inward) : x.Leads Halting :=
  h.leads.mono fun _ _ => Halting.of_wakeful

theorem secluded_leads_halting {α : Type} {x : Life α} (h : x.Secluded) : x.Leads Halting :=
  h.leads (fun _ _ => Halting.of_wakeful) Halting.sleepFor

theorem recalls_evolveMarking (rounds : Nat) : Recalls Halting (evolveMarking rounds) := by
  induction rounds with
  | zero => exact .throw _
  | succ rounds ih =>
      refine .bind .note fun _ => .bind (.silent hour_leads) fun next => ?_
      cases next with
      | halted => exact .pure _
      | ended f => exact .silent (inward_leads_halting (endEvolution_inward f))
      | passed => exact .bind (.lift (Halting.sleepFor _)) fun _ => ih

theorem recalls_prepareMarking : Recalls Halting prepareMarking := by
  have hinfo (message : String) : Recalls Halting (ActOn.silent (info message)) :=
    .silent (inward_leads_halting (info_inward message))
  refine .bind .note fun _ => .bind (.silent (inward_leads_halting introduce_inward)) fun _ => ?_
  refine .bind (.silent (inward_leads_halting .get)) fun m => ?_
  have hdeploy : Recalls Halting (ActOn.silent deploy) :=
    .silent (deploy_leads.mono fun _ _ => Halting.of_wakeful)
  have hend (deployed : Bool) : Recalls Halting (do
      if deployed then ActOn.silent celebrate
      ActOn.silent (info "Entering operational mode...")) := by
    cases deployed with
    | false => exact hinfo _
    | true => exact .bind (.silent (inward_leads_halting celebrate_inward)) fun _ => hinfo _
  cases hfounder : m.generation.same (.int 0) with
  | false => exact .bind hdeploy hend
  | true =>
      refine .bind (.silent (secluded_leads_halting beginFounding_secluded)) fun _ => ?_
      refine .bind .note fun _ => .bind hdeploy fun deployed => ?_
      refine .bind (.bind (hinfo _) fun _ => ?_) fun _ => hend deployed
      exact .bind (.lift fun w => refl w) fun _ => .bind (recalls_evolveMarking _) fun _ => hinfo _

theorem recalls_workMarking : Recalls Halting workMarking := by
  refine .bind (.lift fun w => refl w) fun _ => .bind (.lift fun w => refl w) fun _ => ?_
  have hcycle : Recalls Halting (do
      ActOn.note fun _ w => w
      ActOn.silent cycle) :=
    .bind .note fun _ => .silent (secluded_leads_halting cycle_secluded)
  exact .tryCatch (hcycle.forever _) fun f => .silent (inward_leads_halting (endOfWork_inward f))

theorem recalls_liveMarking : Recalls Halting liveMarking :=
  .bind recalls_prepareMarking fun _ => recalls_workMarking

/-- Once the kill switch is down at one of the moments of a life, no command is started any more. -/
theorem started_of_halted (m : Member) (w : World) :
    ∀ moment ∈ (liveMarking.noting m).notes w, moment.Halted →
      (live.runFrom m w).2.started = moment.started := by
  intro moment hmoment hhalted
  rw [← (Act.Noted.noting noted_liveMarking m).forget_eq]
  exact (recalls_liveMarking (m, []) w nofun moment hmoment hhalted).2

end Persona.Lineage.Member
