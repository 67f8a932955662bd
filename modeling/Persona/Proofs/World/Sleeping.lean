import Persona.Proofs.World.Leading

/-!
# Sleeping once

A sleep is recorded, however it ends. So an activity that stays awake but for one sleep adds just
that one to the record.

Main statements: `Act.sleeps_sleepFor`, `ActOn.SleepsOnce.after`.
-/

namespace Persona

variable {σ α β : Type}

namespace Act

/-- A sleep is recorded once, however it ends. -/
theorem sleeps_sleepFor (seconds : Json) (w : World) :
    (sleepFor seconds w).2.sleeps = w.sleeps ++ [seconds] := by
  have hrecord : (w.record (.sleep seconds)).sleeps = w.sleeps ++ [seconds] :=
    World.sleeps_record w (.sleep seconds)
  rw [sleepFor_apply]
  split
  · exact hrecord
  · exact hrecord

end Act

namespace ActOn

/-- An activity that sleeps once, unless it ends early. -/
def SleepsOnce (x : ActOn σ α) : Prop :=
  ∀ s w, Ends x s w (fun _ _ w' => ∃ seconds, w'.sleeps = w.sleeps ++ [seconds]) fun _ _ _ => True

namespace SleepsOnce

theorem sleepFor (seconds : Json) :
    SleepsOnce (liftM (Act.sleepFor seconds : Act Unit) : ActOn σ Unit) := by
  intro s w
  have hsleeps := Act.sleeps_sleepFor seconds w
  rcases hrun : Act.sleepFor seconds w with ⟨r, w'⟩
  rw [hrun] at hsleeps
  cases r with
  | error f => exact .of_error (lift_of_eq hrun) trivial
  | ok u => exact .of_ok (lift_of_eq hrun) ⟨seconds, hsleeps⟩

theorem after {x : ActOn σ α} {f : α → ActOn σ β} (hx : x.Leads World.Wakeful)
    (hf : ∀ a, SleepsOnce (f a)) : SleepsOnce (x >>= f) := by
  intro s w
  refine .andThen (hx.ends.mono (fun _ _ _ h => h) fun _ _ _ _ => trivial) fun a s' w' hawake => ?_
  have hsleeps : w'.sleeps = w.sleeps := congrArg Prod.snd hawake.time
  have hend := hf a s' w'
  rwa [hsleeps] at hend

theorem ite {c : Prop} [Decidable c] {x y : ActOn σ α} (hx : SleepsOnce x) (hy : SleepsOnce y) :
    SleepsOnce (if c then x else y) := by
  split
  · exact hx
  · exact hy

end SleepsOnce

end ActOn

end Persona
