import Mathlib.Order.Defs.Unbundled
import Persona.Proofs.World.Ending

/-!
# Where activities lead

A relation between the world before an activity and the world after it, however the activity ends.
Activities that lead along a preorder can be put together. The preorder used most is that of the
agent staying awake: no time passes, no command is started and no file goes away.

Main statements: `ActOn.Leads.bind`, `ActOn.Leads.tryCatch`.
-/

namespace Persona

variable {σ τ α β : Type} {R S : World → World → Prop}

/-! ## Relations along activities -/

namespace Act

/-- An activity that leads from each world to a related one. -/
def Leads (R : World → World → Prop) (x : Act α) : Prop := ∀ w, R w (x w).2

namespace Leads

/-- A look at the world before an activity. -/
theorem get_bind {f : World → Act α} (hf : ∀ w, R w (f w w).2) :
    Leads R (MonadState.get >>= f) := hf

theorem mono {x : Act α} (h : Leads R x) (hR : ∀ w w', R w w' → S w w') : Leads S x :=
  fun w => hR _ _ (h w)

theorem ite {c : Prop} [Decidable c] {x y : Act α} (hx : Leads R x) (hy : Leads R y) :
    Leads R (if c then x else y) := by
  split
  · exact hx
  · exact hy

variable [IsPreorder World R]

theorem pure (a : α) : Leads R (Pure.pure a : Act α) := fun w => refl w

theorem throw (f : Fault) : Leads R (MonadExcept.throw f : Act α) := fun w => refl w

/-- What follows an activity leads on from where that one ended. -/
theorem bind_from {x : Act α} {f : α → Act β} (hf : ∀ a, Leads R (f a)) (w : World) :
    R (x w).2 ((x >>= f) w).2 := by
  rcases hrun : x w with ⟨r, w'⟩
  cases r with
  | error e =>
      rw [bind_of_error hrun]
      exact refl w'
  | ok a =>
      rw [bind_of_ok hrun]
      exact hf a w'

theorem bind {x : Act α} {f : α → Act β} (hx : Leads R x) (hf : ∀ a, Leads R (f a)) :
    Leads R (x >>= f) := fun w => IsTrans.trans _ _ _ (hx w) (bind_from hf w)

/-- A handler leads on from where the activity ended. -/
theorem tryCatch_from {x : Act α} {handler : Fault → Act α} (hhandler : ∀ f, Leads R (handler f))
    (w : World) : R (x w).2 (tryCatch x handler w).2 := by
  rcases hrun : x w with ⟨r, w'⟩
  cases r with
  | error f =>
      rw [tryCatch_of_error hrun]
      exact hhandler f w'
  | ok a =>
      rw [tryCatch_of_ok hrun]
      exact refl w'

theorem recover_from {x : Act α} {handler : Fault → Act α} (hhandler : ∀ f, Leads R (handler f))
    (w : World) : R (x w).2 (Persona.recover x handler w).2 :=
  tryCatch_from (fun f => .ite (hhandler f) (.throw f)) w

theorem tryCatch {x : Act α} {handler : Fault → Act α} (hx : Leads R x)
    (hhandler : ∀ f, Leads R (handler f)) : Leads R (tryCatch x handler) :=
  fun w => IsTrans.trans _ _ _ (hx w) (tryCatch_from hhandler w)

theorem recover {x : Act α} {handler : Fault → Act α} (hx : Leads R x)
    (hhandler : ∀ f, Leads R (handler f)) : Leads R (Persona.recover x handler) :=
  fun w => IsTrans.trans _ _ _ (hx w) (recover_from hhandler w)

theorem look (r : Except Mismatch α) : Leads R (Act.look r) := by
  cases r with
  | ok a => exact .pure a
  | error e => exact .throw _

theorem ofExcept (r : Except Fault α) : Leads R (MonadExcept.ofExcept r : Act α) := by
  cases r with
  | ok a => exact .pure a
  | error f => exact .throw f

end Leads

end Act

namespace ActOn

/-- An activity that leads from each world to a related one. -/
def Leads (R : World → World → Prop) (x : ActOn σ α) : Prop := ∀ s w, R w (x s w).2

namespace Leads

theorem mono {x : ActOn σ α} (h : Leads R x) (hR : ∀ w w', R w w' → S w w') : Leads S x :=
  fun s w => hR _ _ (h s w)

theorem ends {x : ActOn σ α} {s : σ} {w : World} (h : Leads R x) :
    Ends x s w (fun _ _ w' => R w w') fun _ _ w' => R w w' := by
  have hrel := h s w
  rcases hrun : x s w with ⟨⟨r, s'⟩, w'⟩
  rw [hrun] at hrel
  cases r with
  | ok a => exact .of_ok hrun hrel
  | error f => exact .of_error hrun hrel

theorem lift {x : Act α} (hx : x.Leads R) : Leads R (liftM x : ActOn σ α) := fun _ => hx

theorem ite {c : Prop} [Decidable c] {x y : ActOn σ α} (hx : Leads R x) (hy : Leads R y) :
    Leads R (if c then x else y) := by
  split
  · exact hx
  · exact hy

theorem within {part : σ → τ} {put : τ → σ → σ} {x : ActOn τ α} (hx : Leads R x) :
    Leads R (x.within part put) := fun s => hx (part s)

variable [IsPreorder World R]

theorem pure (a : α) : Leads R (Pure.pure a : ActOn σ α) := fun _ w => refl w

theorem throw (f : Fault) : Leads R (MonadExcept.throw f : ActOn σ α) := fun _ w => refl w

theorem get : Leads R (MonadState.get : ActOn σ σ) := fun _ w => refl w

theorem set (s : σ) : Leads R (MonadStateOf.set s : ActOn σ PUnit) := fun _ w => refl w

theorem modify (f : σ → σ) : Leads R (modify f : ActOn σ PUnit) := fun _ w => refl w

theorem bind {x : ActOn σ α} {f : α → ActOn σ β} (hx : Leads R x) (hf : ∀ a, Leads R (f a)) :
    Leads R (x >>= f) := by
  intro s w
  have hfirst := hx s w
  rcases hrun : x s w with ⟨⟨r, s'⟩, w'⟩
  rw [hrun] at hfirst
  cases r with
  | error e => rwa [bind_of_error hrun]
  | ok a =>
      rw [bind_of_ok hrun]
      exact IsTrans.trans _ _ _ hfirst (hf a s' w')

theorem tryCatch {x : ActOn σ α} {handler : Fault → ActOn σ α} (hx : Leads R x)
    (hhandler : ∀ f, Leads R (handler f)) : Leads R (tryCatch x handler) := by
  intro s w
  have hfirst := hx s w
  rcases hrun : x s w with ⟨⟨r, s'⟩, w'⟩
  rw [hrun] at hfirst
  cases r with
  | ok a => rwa [tryCatch_of_ok hrun]
  | error f =>
      rw [tryCatch_of_error hrun]
      exact IsTrans.trans _ _ _ hfirst (hhandler f s' w')

theorem recover {x : ActOn σ α} {handler : Fault → ActOn σ α} (hx : Leads R x)
    (hhandler : ∀ f, Leads R (handler f)) : Leads R (Persona.recover x handler) := by
  refine tryCatch hx fun f => ?_
  exact .ite (hhandler f) (.throw f)

end Leads

end ActOn

/-! ## What stays as it is -/

namespace World

/-- Of the world, what is seen through the view stays as it is. -/
def Same {γ : Type} (view : World → γ) (w w' : World) : Prop := view w' = view w

instance {γ : Type} (view : World → γ) : IsPreorder World (Same view) where
  refl _ := rfl
  trans _ _ _ h h' := h'.trans h

end World

/-! ## Time -/

/-- The sleep that an event is. -/
def Event.sleep? : Event → Option Json
  | sleep seconds => some seconds
  | _ => none

namespace World

/-- The sleeps so far, each with the seconds that were asked for. -/
def sleeps (w : World) : List Json := w.trace.filterMap Event.sleep?

theorem sleeps_record (w : World) (e : Event) :
    (w.record e).sleeps = w.sleeps ++ e.sleep?.toList :=
  Event.filterMap_append (fun _ => rfl) w.trace e

/-- What the passing of time changes. -/
def time (w : World) : Moment × List Json := (w.clock, w.sleeps)

end World

/-! ## Staying awake -/

/-- The command that an event starts. -/
def Event.command? : Event → Option Command
  | run command => some command
  | _ => none

namespace World

/-- The commands started so far. -/
def started (w : World) : List Command := w.trace.filterMap Event.command?

theorem started_record (w : World) (e : Event) :
    (w.record e).started = w.started ++ e.command?.toList :=
  Event.filterMap_append (fun _ => rfl) w.trace e

/-- From one world to the other the agent stayed awake: no time passed, no command was started and
no file went away. Lines may have been logged. -/
structure Wakeful (w w' : World) : Prop where
  time : w'.time = w.time
  slept : w'.slept = w.slept
  limits : w'.limits = w.limits
  logged : w.logged ≤ w'.logged
  started : w'.started = w.started
  files : ∀ place, w.files.holds place = true → w'.files.holds place = true

namespace Wakeful

instance : IsPreorder World Wakeful where
  refl _ := ⟨rfl, rfl, rfl, Int.le_refl _, rfl, fun _ h => h⟩
  trans _ _ _ h h' :=
    ⟨h'.time.trans h.time, h'.slept.trans h.slept, h'.limits.trans h.limits,
      Int.le_trans h.logged h'.logged, h'.started.trans h.started,
      fun place hplace => h'.files place (h.files place hplace)⟩

theorem record (w : World) {e : Event} (hsleep : e.sleep? = none) (hcommand : e.command? = none) :
    Wakeful w (w.record e) where
  time := by
    have hsleeps := sleeps_record w e
    rw [hsleep, Option.toList_none, List.append_nil] at hsleeps
    exact congrArg (Prod.mk w.clock) hsleeps
  slept := rfl
  limits := rfl
  logged := Int.le_refl _
  started := by rw [started_record, hcommand, Option.toList_none, List.append_nil]
  files _ h := h

end Wakeful

end World

namespace Act

theorem leads_chance (c : Chance α) : (chance c).Leads World.Wakeful := fun w =>
  ⟨rfl, rfl, rfl, Int.le_refl w.logged, rfl, fun _ h => h⟩

theorem leads_log (severity : Severity) (message : String) :
    (log severity message).Leads World.Wakeful := by
  intro w
  have hrecord := World.Wakeful.record w (e := .log severity message) rfl rfl
  have hcount : w.logged ≤ w.logged + 1 := by omega
  rw [log_apply]
  exact ⟨hrecord.time, rfl, rfl, hcount, hrecord.started, fun _ h => h⟩

end Act

end Persona
