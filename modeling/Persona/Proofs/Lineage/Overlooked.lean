import Persona.Proofs.Lineage.Halting

/-!
# The kill switch does not end the work

The kill switch ends the evolution of the seed at the start of the next hour. The cycles of work do
not look at it: whether it is down, or when it will be put down, makes no difference to them.

Main statement: `switch_ends_evolution_but_not_work`.
-/

namespace Persona.Lineage.Member

theorem evolve_of_halted {w : World} (h : w.Halted) (rounds : Nat) (m : Member) :
    evolve (rounds + 1) m w = ((.ok (), m), w) := by
  rw [evolve_succ, ActOn.bind_of_ok (hour_of_halted h m)]
  rfl

theorem work_overlooks : work.Overlooks := by
  have hsleeps : Act.sleepsLeft.Inward :=
    .see (fun _ _ => rfl : World.Blind fun w => (w.limits.sleeps - w.slept).toNat + 1)
  have hlogs : Act.logsLeft.Inward :=
    .see (fun _ _ => rfl : World.Blind fun w => (w.limits.logs - w.logged).toNat + 1)
  refine .bind (.lift hsleeps.overlooks) fun _ => .bind (.lift hlogs.overlooks) fun _ => ?_
  exact .tryCatch (cycle_secluded.forever _).overlooks fun f => (endOfWork_inward f).overlooks

/-- The kill switch ends evolution at the start of an hour. But once a member has prepared its work,
its life goes on as in any other world that differs in the kill switch only: with the same lines,
sleeps and end. -/
theorem switch_ends_evolution_but_not_work (m : Member) (w : World) {m' : Member} {w' : World}
    (hprepare : prepare m w = ((.ok (), m'), w')) (hbelow : w'.files.NothingBelow) :
    (∀ rounds m w, w.Halted → evolve (rounds + 1) m w = ((.ok (), m), w)) ∧
      ∀ other, w'.Alike other →
        (work m' other).1 = (live m w).1 ∧ (work m' other).2.Alike (live m w).2 := by
  refine ⟨fun rounds m w h => evolve_of_halted h rounds m, fun other halike => ?_⟩
  have hlive : live m w = work m' w' := ActOn.bind_of_ok hprepare
  rw [hlive]
  exact work_overlooks.alike m' halike hbelow

/-- A member of a later generation that prepares no children. -/
def lateMember : Member where
  generation := .int 1
  settings := .obj [("recursive_deploy", .bool false), ("deployment_interval", .int 5)]
  id := "late"
  born := ⟨0⟩
  psyche := none

/-- A world in which the kill switch is down from the start. -/
def switchedWorld : World where
  clock := ⟨0⟩
  draws := { numbers := [0.5] }
  files := { texts := [(["kill.switch"], "")] }
  limits := { sleeps := 2 }

/-- The member works as it would without the kill switch. -/
theorem switch_ends_evolution_but_not_work_late :
    switchedWorld.files.NothingBelow ∧
      (work lateMember { (prepare lateMember switchedWorld).2 with files := {} }).1 =
        (live lateMember switchedWorld).1 := by
  have hbelow : switchedWorld.files.NothingBelow := by
    intro place hplace name below
    obtain rfl : place = ["kill.switch"] := by simpa [switchedWorld] using hplace
    simp
  exact ⟨hbelow, ((switch_ends_evolution_but_not_work lateMember switchedWorld rfl hbelow).2
    { (prepare lateMember switchedWorld).2 with files := {} } rfl).1⟩

/-- The kill switch is down from the start, and the member goes through two cycles of work. -/
theorem works_with_switch_down :
    switchedWorld.Halted ∧ (live lateMember switchedWorld).2.sleeps = [.int 5, .int 5] :=
  ⟨by decide, rfl⟩

end Persona.Lineage.Member
