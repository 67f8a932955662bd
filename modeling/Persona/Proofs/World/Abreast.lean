import Persona.Proofs.Files.Places
import Persona.Proofs.World.Running

/-!
# Activities side by side

Two activities are followed side by side, in worlds that differ only in what the texts of their
files say. What can be done with files is then the same in both: paths lead to the same places, and
a folder is made or a text is written in both or in neither. So activities that write different
texts to the same places keep abreast: they end with the same value or the same fault, in worlds
that again differ only in what texts say.

Main statements: `ActOn.Abreast.bind`, `ActOn.Abreast.recover`, `Act.abreast_makeFolder`,
`Act.abreast_writeFile`.
-/

namespace Persona

/-! ## Fields without their values -/

namespace Fields

variable {κ α β : Type} [DecidableEq κ] {f : α → β}

theorem get?_map (fields : List (κ × α)) (key : κ) :
    get? (fields.map fun e => (e.1, f e.2)) key = (get? fields key).map f := by
  induction fields with
  | nil => rfl
  | cons e rest ih =>
      rw [List.map_cons, get?_cons, get?_cons, ih]
      split <;> rfl

theorem put_map (fields : List (κ × α)) (key : κ) (value : α) :
    put (fields.map fun e => (e.1, f e.2)) key (f value) =
      (put fields key value).map fun e => (e.1, f e.2) := by
  induction fields with
  | nil => rfl
  | cons e rest ih =>
      rw [List.map_cons, put, put, ih]
      split <;> rfl

end Fields

/-! ## Files without their texts -/

namespace Files

/-- The files with nothing written in them. -/
def hollow (t : Files) : Files := { t with texts := t.texts.map fun e => (e.1, "") }

variable (t : Files)

theorem isFolder_hollow (place : Place) : t.hollow.isFolder place = t.isFolder place := rfl

theorem text?_hollow (place : Place) : t.hollow.text? place = (t.text? place).map fun _ => "" :=
  Fields.get?_map (f := fun _ => "") t.texts place

theorem holds_hollow (place : Place) : t.hollow.holds place = t.holds place := by
  rw [holds, holds, isFolder_hollow, text?_hollow, Option.isSome_map]

theorem hollow_put (place : Place) (s : String) :
    (t.put place s).hollow = t.hollow.put place "" := by
  unfold put hollow
  exact congrArg (Files.mk · t.folders) (Fields.put_map (f := fun _ => "") t.texts place s).symm

theorem hollow_addFolder (place : Place) :
    (t.addFolder place).hollow = t.hollow.addFolder place := by
  unfold addFolder
  rw [isFolder_hollow]
  split <;> rfl

theorem follow_hollow (place : Place) (parts : List String) :
    t.hollow.follow place parts = t.follow place parts := by
  induction parts generalizing place with
  | nil => rfl
  | cons part parts ih =>
      simp only [follow, ih, isFolder_hollow, text?_hollow, Option.isSome_map]

theorem locate_hollow (p : Path) : t.hollow.locate p = t.locate p := by
  have hreach : t.hollow.reach p = t.reach p := by
    unfold reach
    simp only [follow_hollow]
  rw [locate, locate, hreach]

theorem makeFolder_hollow (p : Path) : t.hollow.makeFolder p = (t.makeFolder p).map hollow := by
  rw [makeFolder, makeFolder, locate_hollow]
  cases t.locate p with
  | error cause => rfl
  | ok place =>
      change (if t.hollow.holds place then _ else _) =
        (if t.holds place then _ else _ : Except _ _).map _
      rw [holds_hollow]
      split
      · rfl
      · exact congrArg Except.ok (t.hollow_addFolder place).symm

theorem keepFolder_hollow (p : Path) (cause : Cause) :
    t.hollow.keepFolder p cause = (t.keepFolder p cause).map hollow := by
  rw [keepFolder, keepFolder, locate_hollow]
  cases t.locate p with
  | error cause => rfl
  | ok place =>
      dsimp only
      rw [isFolder_hollow]
      split <;> rfl

theorem write_hollow (p : Path) (s : String) :
    t.hollow.write p "" = (t.write p s).map hollow := by
  rw [write, write, locate_hollow]
  cases t.locate p with
  | error cause => rfl
  | ok place =>
      change (if t.hollow.isFolder place then _ else _) =
        (if t.isFolder place then _ else _ : Except _ _).map _
      rw [isFolder_hollow]
      split
      · rfl
      · exact congrArg Except.ok (t.hollow_put place s).symm

end Files

/-! ## Worlds of the same shape -/

namespace World

def hollow (w : World) : World := { w with files := w.files.hollow }

/-- Two worlds that differ only in what the texts of their files say. -/
def SameShape (w w' : World) : Prop := w.hollow = w'.hollow

end World

open World (SameShape)

variable {σ α β : Type}

namespace Act

/-- From worlds of the same shape two activities lead to worlds of the same shape, with the same
value or the same fault. -/
def Abreast (x y : Act α) : Prop :=
  ∀ w w', SameShape w w' → (x w).1 = (y w').1 ∧ SameShape (x w).2 (y w').2

/-- What an activity does shows in a world with hollow texts: there another one does the same. -/
def Shadowed (x shadow : Act α) : Prop := ∀ w, shadow w.hollow = ((x w).1, (x w).2.hollow)

/-- Activities with the same shadow keep abreast. -/
theorem Shadowed.abreast {x y shadow : Act α} (hx : x.Shadowed shadow) (hy : y.Shadowed shadow) :
    Abreast x y := by
  intro w w' h
  have hsame := hx w
  rw [h, hy w'] at hsame
  exact (Prod.mk.inj hsame).imp Eq.symm Eq.symm

/-- An activity that is its own shadow: it does not look at texts. -/
theorem Shadowed.self {x : Act α} (hx : x.Shadowed x) : Abreast x x := hx.abreast hx

theorem abreast_now : Abreast now now := Shadowed.self fun _ => rfl

theorem abreast_log (severity : Severity) (message : String) :
    Abreast (log severity message) (log severity message) := by
  refine Shadowed.self fun w => ?_
  rw [log_apply, log_apply]
  rfl

theorem abreast_ofExcept (r : Except Fault α) :
    Abreast (MonadExcept.ofExcept r) (MonadExcept.ofExcept r) := by
  cases r <;> exact Shadowed.self fun _ => rfl

theorem abreast_shown (v : Json) : Abreast (shown v) (shown v) := by
  refine Shadowed.self fun w => ?_
  unfold shown
  split
  · split <;> rfl
  · rfl

theorem abreast_makeFolder (p : Path) : Abreast (makeFolder p) (makeFolder p) := by
  refine Shadowed.self fun w => ?_
  have hfiles : w.hollow.files = w.files.hollow := rfl
  unfold makeFolder
  rw [bind_of_ok (get_apply w), bind_of_ok (get_apply w.hollow), hfiles, Files.makeFolder_hollow]
  cases w.files.makeFolder p with
  | ok files => rfl
  | error cause =>
      dsimp only [Except.map]
      rw [Files.keepFolder_hollow]
      cases w.files.keepFolder p cause <;> rfl

/-- Two texts that have bytes are written to the same place, or neither is. -/
theorem abreast_writeFile (p : Path) {s t : String} (hs : Text.halves? s = none)
    (ht : Text.halves? t = none) : Abreast (writeFile p s) (writeFile p t) := by
  have hshadow {s : String} (hs : Text.halves? s = none) :
      (writeFile p s).Shadowed (writeFile p "") := by
    intro w
    have hempty : Text.halves? "" = none := rfl
    have hfiles : w.hollow.files = w.files.hollow := rfl
    simp only [writeFile_apply, hs, hempty, Option.isSome_none, Bool.false_eq_true, if_false,
      hfiles, Files.write_hollow w.files p s]
    cases w.files.write p s <;> rfl
  exact (hshadow hs).abreast (hshadow ht)

end Act

namespace ActOn

/-- From related states and worlds of the same shape two activities lead to such states and worlds,
with the same value or the same fault. -/
def Abreast (R : σ → σ → Prop) (x y : ActOn σ α) : Prop :=
  ∀ s s' w w', R s s' → SameShape w w' → (x s w).1.1 = (y s' w').1.1 ∧
    R (x s w).1.2 (y s' w').1.2 ∧ SameShape (x s w).2 (y s' w').2

namespace Abreast

variable {R : σ → σ → Prop}

theorem pure (a : α) : Abreast R (Pure.pure a : ActOn σ α) (Pure.pure a) :=
  fun _ _ _ _ hR hw => ⟨rfl, hR, hw⟩

theorem throw (f : Fault) : Abreast R (MonadExcept.throw f : ActOn σ α) (MonadExcept.throw f) :=
  fun _ _ _ _ hR hw => ⟨rfl, hR, hw⟩

theorem lift {x y : Act α} (h : x.Abreast y) : Abreast R (liftM x : ActOn σ α) (liftM y) :=
  fun _ _ w w' hR hw => ⟨(h w w' hw).1, hR, (h w w' hw).2⟩

theorem modify {f g : σ → σ} (h : ∀ s s', R s s' → R (f s) (g s')) :
    Abreast R (modify f : ActOn σ PUnit) (modify g) :=
  fun s s' _ _ hR hw => ⟨rfl, h s s' hR, hw⟩

/-- A look at the state before an activity. -/
theorem get_bind {f g : σ → ActOn σ α} (h : ∀ s s', R s s' → Abreast R (f s) (g s')) :
    Abreast R (get >>= f) (get >>= g) :=
  fun s s' w w' hR hw => h s s' hR s s' w w' hR hw

theorem bind {x y : ActOn σ α} {f g : α → ActOn σ β} (hx : Abreast R x y)
    (hf : ∀ a, Abreast R (f a) (g a)) : Abreast R (x >>= f) (y >>= g) := by
  intro s s' w w' hR hw
  obtain ⟨hresult, hstate, hworld⟩ := hx s s' w w' hR hw
  rcases hrun : x s w with ⟨⟨r, s₁⟩, w₁⟩
  rcases hrun' : y s' w' with ⟨⟨r', s₁'⟩, w₁'⟩
  rw [hrun, hrun'] at hresult hstate hworld
  obtain rfl : r = r' := hresult
  cases r with
  | error e =>
      rw [bind_of_error hrun, bind_of_error hrun']
      exact ⟨rfl, hstate, hworld⟩
  | ok a =>
      rw [bind_of_ok hrun, bind_of_ok hrun']
      exact hf a s₁ s₁' w₁ w₁' hstate hworld

theorem recover {x y : ActOn σ α} {handler handler' : Fault → ActOn σ α} (hx : Abreast R x y)
    (hhandler : ∀ f, Abreast R (handler f) (handler' f)) :
    Abreast R (Persona.recover x handler) (Persona.recover y handler') := by
  intro s s' w w' hR hw
  obtain ⟨hresult, hstate, hworld⟩ := hx s s' w w' hR hw
  rcases hrun : x s w with ⟨⟨r, s₁⟩, w₁⟩
  rcases hrun' : y s' w' with ⟨⟨r', s₁'⟩, w₁'⟩
  rw [hrun, hrun'] at hresult hstate hworld
  obtain rfl : r = r' := hresult
  cases r with
  | ok a =>
      rw [recover_of_ok hrun, recover_of_ok hrun']
      exact ⟨rfl, hstate, hworld⟩
  | error f =>
      cases hf : f.isFailure with
      | false =>
          rw [recover_of_other hrun hf, recover_of_other hrun' hf]
          exact ⟨rfl, hstate, hworld⟩
      | true =>
          rw [recover_of_failure hrun hf, recover_of_failure hrun' hf]
          exact hhandler f s₁ s₁' w₁ w₁' hstate hworld

end Abreast

end ActOn

end Persona
