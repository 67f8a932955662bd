import Persona.Proofs.Fields
import Persona.Proofs.World.KillSwitch

/-!
# Activities of the agent with itself

An inward activity draws numbers, logs lines and sees the world, though not the kill switch. It is
built of such steps, so what holds of each of them and of putting them together holds of every
inward activity: the agent stays awake, and without the kill switch it does the same. With sleeps in
between it does the same too.

Main statements: `ActOn.Inward.leads`, `ActOn.Secluded.leads`, `ActOn.Secluded.overlooks`.
-/

namespace Persona

variable {σ τ α β : Type}

/-! ## Overlooking the kill switch -/

/-- Nothing lies below the kill switch. -/
def Files.NothingBelow (t : Files) : Prop :=
  ∀ place ∈ t.texts.map (·.1) ++ t.folders, ∀ name below, place ≠ "kill.switch" :: name :: below

namespace World

/-- The world as it is without the kill switch, now and later. -/
def unswitched (w : World) : World :=
  { w with
    files := w.files.remove ["kill.switch"]
    limits := { w.limits with kill := none } }

/-- Two worlds that differ in the kill switch only: in whether it is down and when it will be put
down. -/
def Alike (w w' : World) : Prop := w.unswitched = w'.unswitched

end World

theorem Files.nothingBelow_remove {t : Files} :
    (t.remove ["kill.switch"]).NothingBelow ↔ t.NothingBelow := by
  have hkeys : (t.remove ["kill.switch"]).texts.map (·.1) =
      (t.texts.map (·.1)).filter (· ≠ ["kill.switch"]) := Fields.keys_erase _ _
  constructor
  · rintro h _ hplace name below rfl
    refine h _ ?_ name below rfl
    rw [hkeys]
    rcases List.mem_append.mp hplace with htext | hfolder
    · exact List.mem_append_left _ (List.mem_filter.mpr ⟨htext, by simp⟩)
    · exact List.mem_append_right _ hfolder
  · rintro h place hplace
    refine h place ?_
    rw [hkeys] at hplace
    rcases List.mem_append.mp hplace with htext | hfolder
    · exact List.mem_append_left _ (List.mem_filter.mp htext).1
    · exact List.mem_append_right _ hfolder

namespace Act

/-- Without the kill switch, an activity does the same and leaves the same world but for the
switch. -/
def Overlooks (x : Act α) : Prop :=
  ∀ w, w.files.NothingBelow →
    x w.unswitched = ((x w).1, (x w).2.unswitched) ∧ (x w).2.files.NothingBelow

namespace Overlooks

theorem bind {x : Act α} {f : α → Act β} (hx : Overlooks x) (hf : ∀ a, Overlooks (f a)) :
    Overlooks (x >>= f) := by
  intro w hw
  obtain ⟨hsame, hw'⟩ := hx w hw
  rcases hrun : x w with ⟨r, w'⟩
  rw [hrun] at hsame hw'
  cases r with
  | error e =>
      rw [bind_of_error hrun, bind_of_error hsame]
      exact ⟨rfl, hw'⟩
  | ok a =>
      rw [bind_of_ok hrun, bind_of_ok hsame]
      exact hf a w' hw'

end Overlooks

end Act

namespace ActOn

/-- Without the kill switch, an activity does the same and leaves the same world but for the
switch. -/
def Overlooks (x : ActOn σ α) : Prop :=
  ∀ s w, w.files.NothingBelow →
    x s w.unswitched = ((x s w).1, (x s w).2.unswitched) ∧ (x s w).2.files.NothingBelow

namespace Overlooks

theorem lift {x : Act α} (hx : x.Overlooks) : Overlooks (liftM x : ActOn σ α) := by
  intro s w hw
  obtain ⟨hsame, hw'⟩ := hx w hw
  exact ⟨lift_of_eq hsame, hw'⟩

theorem bind {x : ActOn σ α} {f : α → ActOn σ β} (hx : Overlooks x) (hf : ∀ a, Overlooks (f a)) :
    Overlooks (x >>= f) := by
  intro s w hw
  obtain ⟨hsame, hw'⟩ := hx s w hw
  rcases hrun : x s w with ⟨⟨r, s'⟩, w'⟩
  rw [hrun] at hsame hw'
  cases r with
  | error e =>
      rw [bind_of_error hrun, bind_of_error hsame]
      exact ⟨rfl, hw'⟩
  | ok a =>
      rw [bind_of_ok hrun, bind_of_ok hsame]
      exact hf a s' w' hw'

theorem tryCatch {x : ActOn σ α} {handler : Fault → ActOn σ α} (hx : Overlooks x)
    (hhandler : ∀ f, Overlooks (handler f)) : Overlooks (tryCatch x handler) := by
  intro s w hw
  obtain ⟨hsame, hw'⟩ := hx s w hw
  rcases hrun : x s w with ⟨⟨r, s'⟩, w'⟩
  rw [hrun] at hsame hw'
  cases r with
  | ok a =>
      rw [tryCatch_of_ok hrun, tryCatch_of_ok hsame]
      exact ⟨rfl, hw'⟩
  | error f =>
      rw [tryCatch_of_error hrun, tryCatch_of_error hsame]
      exact hhandler f s' w' hw'

theorem within {part : σ → τ} {put : τ → σ → σ} {x : ActOn τ α} (hx : Overlooks x) :
    Overlooks (x.within part put) := by
  intro s w hw
  obtain ⟨hsame, hw'⟩ := hx (part s) w hw
  rcases hrun : x (part s) w with ⟨⟨r, t⟩, w'⟩
  rw [hrun] at hsame hw'
  rw [within_of_eq hrun, within_of_eq hsame]
  exact ⟨rfl, hw'⟩

/-- In two worlds that differ in the kill switch only, such an activity does the same. -/
theorem alike {x : ActOn σ α} (hx : Overlooks x) (s : σ) {w w' : World} (h : w.Alike w')
    (hw : w.files.NothingBelow) : (x s w').1 = (x s w).1 ∧ (x s w').2.Alike (x s w).2 := by
  have hfiles : w.files.remove ["kill.switch"] = w'.files.remove ["kill.switch"] :=
    congrArg World.files h
  have hw' : w'.files.NothingBelow := by
    rwa [← Files.nothingBelow_remove, ← hfiles, Files.nothingBelow_remove]
  have hsame := (hx s w hw).1
  rw [h, (hx s w' hw').1] at hsame
  exact Prod.mk.inj hsame

end Overlooks

end ActOn

/-! ## Inward activities -/

/-- A view of the world in which the kill switch does not show. -/
def World.Blind (view : World → α) : Prop :=
  ∀ w, w.files.NothingBelow → view w.unswitched = view w

inductive Act.Inward : {α : Type} → Act α → Prop
  | pure {α : Type} (a : α) : Inward (Pure.pure a : Act α)
  | throw {α : Type} (f : Fault) : Inward (MonadExcept.throw f : Act α)
  | see {α : Type} {view : World → α} (h : World.Blind view) :
    Inward (do return view (← get) : Act α)
  | chance {α : Type} (c : Chance α) : Inward (Act.chance c)
  | log (severity : Severity) (message : String) : Inward (Act.log severity message)
  | bind {α β : Type} {x : Act α} {f : α → Act β} (hx : Inward x) (hf : ∀ a, Inward (f a)) :
    Inward (x >>= f)

namespace Act.Inward

theorem now : Inward Act.now := .see (fun _ _ => rfl : World.Blind World.clock)

theorem look (r : Except Mismatch α) : Inward (Act.look r) := by
  cases r with
  | ok a => exact .pure a
  | error e => exact .throw _

theorem ofExcept (r : Except Fault α) : Inward (MonadExcept.ofExcept r : Act α) := by
  cases r with
  | ok a => exact .pure a
  | error f => exact .throw f

theorem shown (v : Json) : Inward (Act.shown v) := by
  unfold Act.shown
  split
  · split
    · exact .throw _
    · exact .pure _
  · exact .pure _

theorem leads {x : Act α} (h : Inward x) : x.Leads World.Wakeful := by
  induction h with
  | pure a => exact .pure a
  | throw f => exact .throw f
  | see h => exact fun w => refl w
  | chance c => exact leads_chance c
  | log severity message => exact leads_log severity message
  | bind _ _ hx hf => exact .bind hx hf

theorem overlooks {x : Act α} (h : Inward x) : x.Overlooks := by
  induction h with
  | pure a => exact fun w hw => ⟨rfl, hw⟩
  | throw f => exact fun w hw => ⟨rfl, hw⟩
  | see h => exact fun w hw => ⟨congrArg (fun a => (Except.ok a, w.unswitched)) (h w hw), hw⟩
  | chance c => exact fun w hw => ⟨rfl, hw⟩
  | log severity message =>
      intro w hw
      rw [log_apply, log_apply]
      exact ⟨rfl, hw⟩
  | bind _ _ hx hf => exact .bind hx hf

end Act.Inward

inductive ActOn.Inward : {σ α : Type} → ActOn σ α → Prop
  | lift {σ α : Type} {x : Act α} (hx : x.Inward) : Inward (liftM x : ActOn σ α)
  | get {σ : Type} : Inward (MonadState.get : ActOn σ σ)
  | set {σ : Type} (s : σ) : Inward (MonadStateOf.set s : ActOn σ PUnit)
  | modify {σ : Type} (f : σ → σ) : Inward (modify f : ActOn σ PUnit)
  | bind {σ α β : Type} {x : ActOn σ α} {f : α → ActOn σ β} (hx : Inward x)
    (hf : ∀ a, Inward (f a)) : Inward (x >>= f)
  | within {σ τ α : Type} {part : σ → τ} {put : τ → σ → σ} {x : ActOn τ α} (hx : Inward x) :
    Inward (x.within part put)

namespace ActOn.Inward

theorem pure (a : α) : Inward (Pure.pure a : ActOn σ α) := .lift (.pure a)

theorem throw (f : Fault) : Inward (MonadExcept.throw f : ActOn σ α) := .lift (.throw f)

theorem ite {c : Prop} [Decidable c] {x y : ActOn σ α} (hx : Inward x) (hy : Inward y) :
    Inward (if c then x else y) := by
  split
  · exact hx
  · exact hy

theorem leads {x : ActOn σ α} (h : Inward x) : x.Leads World.Wakeful := by
  induction h with
  | lift hx => exact .lift hx.leads
  | get => exact .get
  | set s => exact .set s
  | modify f => exact .modify f
  | bind _ _ hx hf => exact .bind hx hf
  | within _ hx => exact .within hx

theorem overlooks {x : ActOn σ α} (h : Inward x) : x.Overlooks := by
  induction h with
  | lift hx => exact .lift hx.overlooks
  | get => exact fun _ _ hw => ⟨rfl, hw⟩
  | set s => exact fun _ _ hw => ⟨rfl, hw⟩
  | modify f => exact fun _ _ hw => ⟨rfl, hw⟩
  | bind _ _ hx hf => exact .bind hx hf
  | within _ hx => exact .within hx

end ActOn.Inward

/-! ## Sleeps in between -/

/-- A sleep may put the kill switch down, but changes no other file. -/
theorem World.remove_sleeping (w : World) (seconds : Json) (clock : Moment) :
    (w.sleeping seconds clock).files.remove ["kill.switch"] = w.files.remove ["kill.switch"] := by
  change (if w.limits.kill == some (w.slept + 1) then w.files.put ["kill.switch"] ""
    else w.files).remove _ = _
  split
  · exact congrArg (fun texts => { w.files with texts }) (Fields.erase_put _ _ _)
  · rfl

theorem World.unswitched_sleeping (w : World) (seconds : Json) (clock : Moment) :
    w.unswitched.sleeping seconds clock = (w.sleeping seconds clock).unswitched :=
  congrArg (fun files => { w.unswitched.sleeping seconds clock with files })
    (w.remove_sleeping seconds clock).symm

theorem Act.sleepFor_overlooks (seconds : Json) : (Act.sleepFor seconds).Overlooks := by
  intro w hw
  rw [sleepFor_apply, sleepFor_apply]
  have hclock : w.unswitched.clock = w.clock := rfl
  have hsystem : w.unswitched.system = w.system := rfl
  rw [hclock, hsystem]
  cases wakingTime w.system w.clock seconds with
  | error f => exact ⟨rfl, hw⟩
  | ok clock =>
      have hbelow : (w.sleeping seconds clock).files.NothingBelow := by
        rw [← Files.nothingBelow_remove, World.remove_sleeping, Files.nothingBelow_remove]
        exact hw
      exact ⟨congrArg (Prod.mk _) (w.unswitched_sleeping seconds clock), hbelow⟩

/-- Inward activities with sleeps in between. -/
inductive ActOn.Secluded : {σ α : Type} → ActOn σ α → Prop
  | inward {σ α : Type} {x : ActOn σ α} (hx : x.Inward) : Secluded x
  | sleepFor {σ : Type} (seconds : Json) :
    Secluded (liftM (Act.sleepFor seconds) : ActOn σ Unit)
  | bind {σ α β : Type} {x : ActOn σ α} {f : α → ActOn σ β} (hx : Secluded x)
    (hf : ∀ a, Secluded (f a)) : Secluded (x >>= f)

namespace ActOn.Secluded

theorem ite {c : Prop} [Decidable c] {x y : ActOn σ α} (hx : Secluded x) (hy : Secluded y) :
    Secluded (if c then x else y) := by
  split
  · exact hx
  · exact hy

theorem forever {x : ActOn σ Unit} (h : Secluded x) (rounds : Nat) :
    Secluded (x.forever rounds) := by
  induction rounds with
  | zero => exact .inward (.throw _)
  | succ rounds ih => exact .bind h fun _ => ih

variable {R : World → World → Prop} [IsPreorder World R]

theorem leads {x : ActOn σ α} (h : Secluded x) (hawake : ∀ w w', World.Wakeful w w' → R w w')
    (hsleep : ∀ seconds, (Act.sleepFor seconds).Leads R) : x.Leads R := by
  induction h with
  | inward hx => exact hx.leads.mono hawake
  | sleepFor seconds => exact .lift (hsleep seconds)
  | bind _ _ hx hf => exact .bind hx hf

theorem overlooks {x : ActOn σ α} (h : Secluded x) : x.Overlooks := by
  induction h with
  | inward hx => exact hx.overlooks
  | sleepFor seconds => exact .lift (Act.sleepFor_overlooks seconds)
  | bind _ _ hx hf => exact .bind hx hf

end ActOn.Secluded

end Persona
