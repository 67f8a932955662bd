import Persona.Proofs.World.Inward

/-!
# Interrupted sleeps

The user interrupts at a sleep or at a log line. Both are counted, so whether it happened between
two worlds can be seen from the counts. An activity that heeds interruptions ends early at an
interrupted sleep.

Main statements: `ActOn.HeedsAt.bind`, `ActOn.HeedsAt.sleepFor`, `ActOn.Secluded.heeds`.
-/

namespace Persona

variable {σ τ α β : Type}

namespace World

/-! ## Counting sleeps and log lines -/

/-- From a world to a later one. -/
structure Later (w w' : World) : Prop where
  limits : w'.limits = w.limits
  slept : w.slept ≤ w'.slept
  logged : w.logged ≤ w'.logged

/-- A sleep in between was interrupted. -/
def Roused (w w' : World) : Prop := w.slept < w'.slept ∧ w'.limits.sleeps ≤ w'.slept

/-- The user interrupted at a log line in between. -/
def Cut (w w' : World) : Prop := w.logged < w'.limits.logs ∧ w'.limits.logs ≤ w'.logged

instance (w w' : World) : Decidable (w.Roused w') := inferInstanceAs (Decidable (_ ∧ _))

instance (w w' : World) : Decidable (w.Cut w') := inferInstanceAs (Decidable (_ ∧ _))

/-- The last thing that happened is a sleep. -/
def JustSlept (w : World) : Prop := ∃ seconds, w.trace.getLast? = some (.sleep seconds)

variable {w w₁ w₂ : World}

instance : IsPreorder World Later where
  refl _ := ⟨rfl, Int.le_refl _, Int.le_refl _⟩
  trans _ _ _ h h' :=
    ⟨h'.limits.trans h.limits, Int.le_trans h.slept h'.slept, Int.le_trans h.logged h'.logged⟩

theorem roused_iff (h : Later w w₁) (h' : Later w₁ w₂) :
    w.Roused w₂ ↔ w.Roused w₁ ∨ w₁.Roused w₂ := by
  have hslept := h.slept
  have hslept' := h'.slept
  simp only [Roused, h'.limits]
  omega

theorem Roused.before (h : Later w w₁) (hroused : w₁.Roused w₂) : w.Roused w₂ :=
  ⟨Int.lt_of_le_of_lt h.slept hroused.1, hroused.2⟩

theorem Cut.before (h : Later w w₁) (hcut : w₁.Cut w₂) : w.Cut w₂ :=
  ⟨Int.lt_of_le_of_lt h.logged hcut.1, hcut.2⟩

/-- The agent stayed awake. Commands may have been started. -/
def Awake (w w' : World) : Prop := Later w w' ∧ w'.slept = w.slept

instance : IsPreorder World Awake where
  refl w := ⟨refl w, rfl⟩
  trans _ _ _ h h' := ⟨IsTrans.trans _ _ _ h.1 h'.1, h'.2.trans h.2⟩

theorem Awake.of_wakeful (h : Wakeful w w₁) : Awake w w₁ :=
  ⟨⟨h.limits, Int.le_of_eq h.slept.symm, h.logged⟩, h.slept⟩

theorem Awake.not_roused (h : Awake w w₁) : ¬ w.Roused w₁ :=
  fun hroused => absurd hroused.1 (by rw [h.2]; exact Int.lt_irrefl _)

end World

open World (Awake Cut Later Roused)

/-! ## Heeding interruptions -/

namespace ActOn

/-- From a state and a world, an activity ends early if a sleep in it is interrupted, and then `P`
holds. -/
def HeedsAt (P : σ → World → Prop) (x : ActOn σ α) (s : σ) (w : World) : Prop :=
  Ends x s w (fun _ _ w' => Later w w' ∧ ¬ w.Roused w')
    fun f s' w' => Later w w' ∧ (w.Roused w' → f = .interrupted ∧ P s' w')

variable {P : σ → World → Prop} {s : σ} {w : World}

namespace HeedsAt

theorem bind {x : ActOn σ α} {f : α → ActOn σ β} {Q : α → σ → World → Prop}
    (hx : HeedsAt P x s w) (hok : Ends x s w Q fun _ _ _ => True)
    (hf : ∀ a s' w', Q a s' w' → HeedsAt P (f a) s' w') : HeedsAt P (x >>= f) s w := by
  rcases hrun : x s w with ⟨⟨r, s'⟩, w'⟩
  rw [HeedsAt, Ends, hrun] at hx
  rw [Ends, hrun] at hok
  cases r with
  | error e => exact .of_error (bind_of_error hrun) hx
  | ok a =>
      obtain ⟨hlater, hunroused⟩ := hx
      rw [HeedsAt, Ends, bind_of_ok hrun]
      -- What follows can only be roused by itself.
      have hroused {w'' : World} (hlater' : Later w' w'') (h : w.Roused w'') : w'.Roused w'' :=
        ((World.roused_iff hlater hlater').mp h).resolve_left hunroused
      refine (hf a s' w' hok).mono (fun _ _ w'' h => ?_) fun _ _ w'' h => ?_
      · exact ⟨IsTrans.trans _ _ _ hlater h.1, fun hr => h.2 (hroused h.1 hr)⟩
      · exact ⟨IsTrans.trans _ _ _ hlater h.1, fun hr => h.2 (hroused h.1 hr)⟩

theorem of_leads {x : ActOn σ α} (h : x.Leads Awake) : HeedsAt P x s w := by
  refine h.ends.mono (fun _ _ _ hawake => ?_) fun _ _ _ hawake => ?_
  · exact ⟨hawake.1, hawake.not_roused⟩
  · exact ⟨hawake.1, fun hr => absurd hr hawake.not_roused⟩

theorem of_inward {x : ActOn σ α} (h : x.Inward) : HeedsAt P x s w :=
  of_leads (h.leads.mono fun _ _ => Awake.of_wakeful)

theorem sleepFor {seconds : Json} (hP : ∀ w', w'.JustSlept → P s w') :
    HeedsAt P (liftM (Act.sleepFor seconds) : ActOn σ Unit) s w := by
  have hsleep := Act.sleepFor_apply seconds w
  cases htime : Act.wakingTime w.system w.clock seconds with
  | error f =>
      rw [htime] at hsleep
      exact .of_error (lift_of_eq hsleep)
        ⟨⟨rfl, Int.le_refl _, Int.le_refl _⟩, fun hr => absurd hr.1 (Int.lt_irrefl _)⟩
  | ok clock =>
      rw [htime] at hsleep
      have hlater : Later w (w.sleeping seconds clock) :=
        ⟨rfl, Int.le_of_lt (Int.lt_succ w.slept), Int.le_refl _⟩
      by_cases hlimit : w.limits.sleeps ≤ w.slept + 1
      · rw [if_pos hlimit] at hsleep
        refine .of_error (lift_of_eq hsleep) ⟨hlater, fun _ => ⟨rfl, hP _ ⟨seconds, ?_⟩⟩⟩
        exact List.getLast?_concat
      · rw [if_neg hlimit] at hsleep
        exact .of_ok (lift_of_eq hsleep) ⟨hlater, fun hr => hlimit hr.2⟩

/-- What holds of the state before holds of the same state at the interruption. -/
theorem steady {x : ActOn σ α} (h : HeedsAt P x s w) (hx : x.Steady) {Q : σ → Prop} (hs : Q s) :
    HeedsAt (fun s' w' => P s' w' ∧ Q s') x s w := by
  have hstate := hx s w
  rcases hrun : x s w with ⟨⟨r, s'⟩, w'⟩
  rw [hrun] at hstate
  rw [HeedsAt, Ends, hrun] at h ⊢
  obtain rfl : s' = s := hstate
  cases r with
  | ok a => exact h
  | error f => exact ⟨h.1, fun hr => ⟨(h.2 hr).1, (h.2 hr).2, hs⟩⟩

end HeedsAt

/-- An activity that ends early if a sleep in it is interrupted, and then `P` holds. -/
def Heeds (P : σ → World → Prop) (x : ActOn σ α) : Prop := ∀ s w, HeedsAt P x s w

namespace Heeds

theorem leads {x : ActOn σ α} (h : Heeds P x) : x.Leads Later := by
  intro s w
  have hends := h s w
  rcases hrun : x s w with ⟨⟨r, s'⟩, w'⟩
  rw [HeedsAt, Ends, hrun] at hends
  cases r with
  | ok a => exact hends.1
  | error f => exact hends.1

theorem bind {x : ActOn σ α} {f : α → ActOn σ β} (hx : Heeds P x) (hf : ∀ a, Heeds P (f a)) :
    Heeds P (x >>= f) := fun s w =>
  (hx s w).bind (Q := fun _ _ _ => True) (.of_forall (fun _ _ _ => trivial) fun _ _ _ => trivial)
    fun a s' w' _ => hf a s' w'

theorem of_leads {x : ActOn σ α} (h : x.Leads Awake) : Heeds P x := fun _ _ => .of_leads h

theorem of_inward {x : ActOn σ α} (h : x.Inward) : Heeds P x := fun _ _ => .of_inward h

theorem ite {c : Prop} [Decidable c] {x y : ActOn σ α} (hx : Heeds P x) (hy : Heeds P y) :
    Heeds P (if c then x else y) := by
  split
  · exact hx
  · exact hy

theorem forever {x : ActOn σ Unit} (hx : Heeds P x) (rounds : Nat) :
    Heeds P (x.forever rounds) := by
  induction rounds with
  | zero => exact .of_inward (.throw _)
  | succ rounds ih => exact .bind hx fun _ => ih

end Heeds

/-- Where all that is asked for is that a sleep came last, sleeps in between do no harm. -/
theorem Secluded.heeds {x : ActOn σ α} (h : x.Secluded) : Heeds (fun _ w => w.JustSlept) x := by
  induction h with
  | inward hx => exact .of_inward hx
  | sleepFor seconds => exact fun _ _ => .sleepFor fun _ h => h
  | bind _ _ hx hf => exact .bind hx hf

end ActOn

/-! ## Logged lines -/

namespace World

/-- The world after lines were logged. -/
def saying (w : World) (lines : List String) : World :=
  lines.foldl (fun w line => w.logging .info line) w

theorem saying_concat (w : World) (lines : List String) (line : String) :
    w.saying (lines ++ [line]) = (w.saying lines).logging .info line := by
  simp only [saying, List.foldl_append, List.foldl_cons, List.foldl_nil]

theorem clock_saying (w : World) (lines : List String) : (w.saying lines).clock = w.clock := by
  induction lines generalizing w with
  | nil => rfl
  | cons line lines ih => exact ih (w.logging .info line)

theorem later_saying (w : World) (lines : List String) : Later w (w.saying lines) := by
  induction lines generalizing w with
  | nil => exact refl w
  | cons line lines ih =>
      have hlater : Later w (w.logging .info line) :=
        ⟨rfl, Int.le_refl w.slept, Int.le_of_lt (Int.lt_succ w.logged)⟩
      exact IsTrans.trans _ _ _ hlater (ih _)

theorem trace_saying (w : World) (lines : List String) :
    (w.saying lines).trace = w.trace ++ lines.map (Event.log .info) := by
  induction lines generalizing w with
  | nil => exact (List.append_nil _).symm
  | cons line lines ih =>
      have htrace : (w.logging .info line).trace = w.trace ++ [.log .info line] := rfl
      rw [List.map_cons, List.append_cons, ← htrace]
      exact ih _

end World

/-- One more line is logged, or the user interrupts at it. -/
theorem ActOn.log_ends (w : World) (lines : List String) (line : String) (s : σ) :
    Ends (liftM (Act.log .info line) : ActOn σ Unit) s (w.saying lines)
      (fun _ s' w' => s' = s ∧ w' = w.saying (lines ++ [line])) fun _ _ w' => w.Cut w' := by
  have hlog := Act.log_apply .info line (w.saying lines)
  rw [← World.saying_concat] at hlog
  by_cases hlimit : (w.saying lines).logged + 1 = (w.saying lines).limits.logs
  · rw [if_pos (beq_iff_eq.mpr hlimit)] at hlog
    refine .of_error (lift_of_eq hlog) (Cut.before (World.later_saying w lines) ?_)
    rw [World.saying_concat]
    exact ⟨hlimit ▸ Int.lt_succ _, Int.le_of_eq hlimit.symm⟩
  · rw [if_neg (mt beq_iff_eq.mp hlimit)] at hlog
    exact .of_ok (lift_of_eq hlog) ⟨rfl, rfl⟩

/-! ## Commands -/

theorem Act.leads_execute (command : Command) : (Act.execute command).Leads Awake := by
  intro w
  -- The command may use up an answer, but nothing is logged and nobody sleeps.
  have hawake (commands) : Awake w { w.record (.run command) with commands } :=
    ⟨⟨rfl, Int.le_refl w.slept, Int.le_refl w.logged⟩, rfl⟩
  exact execute_leaves ⟨⟨rfl, Int.le_refl w.slept, Int.le_refl w.logged⟩, rfl⟩ hawake

end Persona
