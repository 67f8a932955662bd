import Persona.Proofs.World.Running

/-!
# Activities that take notes

The world that an activity leaves does not tell all that the activity did. A second activity of the
same shape, which takes notes on the way, does. It is tied to the first one by `Noted`: without the
notes it ends in the same way, with the same state and in the same world, and notes are only added.

Main statements: `Noted.bind`, `Noted.recover`, `Noted.forM`, `Noted.forever`, `Act.Noted.rounds`.
-/

namespace Persona

variable {σ τ ν α β : Type}

/-! ## Activities with a state -/

namespace ActOn

/-- Take a note of the state and the world. -/
def note (f : σ → World → ν) : ActOn (σ × List ν) Unit :=
  fun s w => ((.ok (), (s.1, s.2 ++ [f s.1 w])), w)

/-- An activity that takes no notes. -/
def silent (x : ActOn σ α) : ActOn (σ × List ν) α := x.within Prod.fst fun s t => (s, t.2)

/-- Run an activity with notes on a part of a larger state; the notes go on. -/
def withinNoting (part : σ → τ) (put : τ → σ → σ) (x : ActOn (τ × List ν) α) :
    ActOn (σ × List ν) α :=
  x.within (fun s => (part s.1, s.2)) fun t s => (put t.1 s.1, t.2)

theorem note_apply (f : σ → World → ν) (s : σ) (notes : List ν) (w : World) :
    note f (s, notes) w = ((.ok (), (s, notes ++ [f s w])), w) := rfl

theorem silent_apply (x : ActOn σ α) (s : σ) (notes : List ν) (w : World) :
    silent x (s, notes) w = (((x s w).1.1, ((x s w).1.2, notes)), (x s w).2) := rfl

/-- `x` is the activity `y` with notes. -/
def Noted (x : ActOn (σ × List ν) α) (y : ActOn σ α) : Prop :=
  ∀ s notes w, ∃ added,
    x (s, notes) w = (((y s w).1.1, ((y s w).1.2, notes ++ added)), (y s w).2)

namespace Noted

theorem notes_grow {x : ActOn (σ × List ν) α} {y : ActOn σ α} (h : Noted x y) (s : σ)
    (notes : List ν) (w : World) : notes <+: (x (s, notes) w).1.2.2 := by
  obtain ⟨added, hx⟩ := h s notes w
  exact ⟨added, by rw [hx]⟩

theorem silent (x : ActOn σ α) : Noted (ActOn.silent x : ActOn (σ × List ν) α) x :=
  fun s notes w => ⟨[], by rw [silent_apply, List.append_nil]⟩

theorem pure (a : α) : Noted (Pure.pure a : ActOn (σ × List ν) α) (Pure.pure a) :=
  fun s notes w => ⟨[], by rw [List.append_nil]; rfl⟩

theorem lift (x : Act α) : Noted (liftM x : ActOn (σ × List ν) α) (liftM x) :=
  fun s notes w => ⟨[], by rw [List.append_nil]; rfl⟩

theorem bind {x : ActOn (σ × List ν) α} {y : ActOn σ α} {f : α → ActOn (σ × List ν) β}
    {g : α → ActOn σ β} (h : Noted x y) (hf : ∀ a, Noted (f a) (g a)) :
    Noted (x >>= f) (y >>= g) := by
  intro s notes w
  obtain ⟨added, hx⟩ := h s notes w
  rcases hy : y s w with ⟨⟨r, s'⟩, w'⟩
  rw [hy] at hx
  cases r with
  | error e => exact ⟨added, by rw [bind_of_error hx, bind_of_error hy]⟩
  | ok a =>
      obtain ⟨more, hfa⟩ := hf a s' (notes ++ added) w'
      refine ⟨added ++ more, ?_⟩
      rw [bind_of_ok hx, bind_of_ok hy, hfa, List.append_assoc]

/-- Taking a note first changes nothing but the notes. -/
theorem note_bind {x : ActOn (σ × List ν) α} {y : ActOn σ α} (h : Noted x y)
    (f : σ → World → ν) : Noted (note f >>= fun _ => x) y := by
  intro s notes w
  obtain ⟨added, hx⟩ := h s (notes ++ [f s w]) w
  refine ⟨[f s w] ++ added, ?_⟩
  rw [bind_of_ok (note_apply f s notes w), hx, List.append_assoc]

theorem tryCatch {x : ActOn (σ × List ν) α} {y : ActOn σ α}
    {handler : Fault → ActOn (σ × List ν) α} {handler' : Fault → ActOn σ α} (h : Noted x y)
    (hhandler : ∀ f, Noted (handler f) (handler' f)) :
    Noted (tryCatch x handler) (tryCatch y handler') := by
  intro s notes w
  obtain ⟨added, hx⟩ := h s notes w
  rcases hy : y s w with ⟨⟨r, s'⟩, w'⟩
  rw [hy] at hx
  cases r with
  | ok a => exact ⟨added, by rw [tryCatch_of_ok hx, tryCatch_of_ok hy]⟩
  | error f =>
      obtain ⟨more, hmore⟩ := hhandler f s' (notes ++ added) w'
      refine ⟨added ++ more, ?_⟩
      rw [tryCatch_of_error hx, tryCatch_of_error hy, hmore, List.append_assoc]

theorem recover {x : ActOn (σ × List ν) α} {y : ActOn σ α}
    {handler : Fault → ActOn (σ × List ν) α} {handler' : Fault → ActOn σ α} (h : Noted x y)
    (hhandler : ∀ f, Noted (handler f) (handler' f)) :
    Noted (Persona.recover x handler) (Persona.recover y handler') := by
  refine tryCatch h fun f => ?_
  split
  · exact hhandler f
  · exact .lift (throw f)

theorem within {part : σ → τ} {put : τ → σ → σ} {x : ActOn (τ × List ν) α} {y : ActOn τ α}
    (h : Noted x y) : Noted (x.withinNoting part put) (y.within part put) := by
  intro s notes w
  obtain ⟨added, hx⟩ := h (part s) notes w
  rcases hy : y (part s) w with ⟨⟨r, t⟩, w'⟩
  rw [hy] at hx
  exact ⟨added, by simp only [withinNoting, ActOn.within, hx, hy]⟩

theorem forM {f : α → ActOn (σ × List ν) PUnit} {g : α → ActOn σ PUnit}
    (h : ∀ a, Noted (f a) (g a)) (xs : List α) : Noted (xs.forM f) (xs.forM g) := by
  induction xs with
  | nil => exact .pure _
  | cons x xs ih => exact (h x).bind fun _ => ih

theorem forever {x : ActOn (σ × List ν) Unit} {y : ActOn σ Unit} (h : Noted x y) (rounds : Nat) :
    Noted (x.forever rounds) (y.forever rounds) := by
  induction rounds with
  | zero => exact .lift (throw .interrupted)
  | succ rounds ih => exact h.bind fun _ => ih

end Noted

end ActOn

/-! ## Activities without a state -/

namespace ActOn

/-- Run an activity with notes from a state; the notes go on. -/
def noting (x : ActOn (σ × List ν) α) (s : σ) : ActOn (List ν) (α × σ) :=
  fun notes w =>
    let ((result, (s, notes)), w) := x (s, notes) w
    ((result.map (·, s), notes), w)

/-- Repeat a round on a value until it gives none, at most `rounds` times; after that the user
interrupts. -/
def rounds (round : τ → ActOn σ (Option τ)) : Nat → τ → ActOn σ Unit
  | 0, _ => throw .interrupted
  | n + 1, t => do
    match ← round t with
    | some t => rounds round n t
    | none => return ()

/-- The notes of an activity from its start to its end. -/
def notes (x : ActOn (List ν) α) (w : World) : List ν := (x [] w).1.2

/-- An activity as it is without its notes. -/
def forget (x : ActOn (List ν) α) : Act α := fun w => ((x [] w).1.1, (x [] w).2)

/-- What holds of no notes and of the notes that follow an activity without notes holds of both
together. -/
theorem notes_lift_bind {P : List ν → Prop} (hnil : P []) (x : Act α)
    {f : α → ActOn (List ν) β} (h : ∀ a w, P ((f a).notes w)) (w : World) :
    P ((liftM x >>= f : ActOn (List ν) β).notes w) := by
  unfold notes
  rcases hx : x w with ⟨r, w'⟩
  cases r with
  | error e => rw [bind_lift_of_error hx]; exact hnil
  | ok a => rw [bind_lift_of_ok hx]; exact h a w'

theorem notes_discard_noting (x : ActOn (σ × List ν) α) (s : σ) (w : World) :
    (discard (x.noting s)).notes w = (x (s, []) w).1.2.2 := by
  change ((x.noting s >>= fun _ => pure PUnit.unit) [] w).1.2 = _
  rw [bind_state fun _ _ _ => rfl]
  rfl

end ActOn

namespace Act

/-- `x` is the activity `y` with notes. -/
def Noted (x : ActOn (List ν) α) (y : Act α) : Prop :=
  ∀ notes w, ∃ added, x notes w = (((y w).1, notes ++ added), (y w).2)

namespace Noted

theorem forget_eq {x : ActOn (List ν) α} {y : Act α} (h : Noted x y) : x.forget = y := by
  funext w
  obtain ⟨added, hx⟩ := h [] w
  simp only [ActOn.forget, hx]
  rfl

theorem pure (a : α) : Noted (Pure.pure a : ActOn (List ν) α) (Pure.pure a) :=
  fun notes w => ⟨[], by rw [List.append_nil]; rfl⟩

theorem lift (x : Act α) : Noted (liftM x : ActOn (List ν) α) x :=
  fun notes w => ⟨[], by rw [List.append_nil]; rfl⟩

theorem bind {x : ActOn (List ν) α} {y : Act α} {f : α → ActOn (List ν) β} {g : α → Act β}
    (h : Noted x y) (hf : ∀ a, Noted (f a) (g a)) : Noted (x >>= f) (y >>= g) := by
  intro notes w
  obtain ⟨added, hx⟩ := h notes w
  rcases hy : y w with ⟨r, w'⟩
  rw [hy] at hx
  cases r with
  | error e => exact ⟨added, by rw [ActOn.bind_of_error hx, bind_of_error hy]⟩
  | ok a =>
      obtain ⟨more, hfa⟩ := hf a (notes ++ added) w'
      refine ⟨added ++ more, ?_⟩
      rw [ActOn.bind_of_ok hx, bind_of_ok hy, hfa, List.append_assoc]

theorem noting {x : ActOn (σ × List ν) α} {y : ActOn σ α} (h : ActOn.Noted x y) (s : σ) :
    Noted (x.noting s) (y.runFrom s) := by
  intro notes w
  obtain ⟨added, hx⟩ := h s notes w
  rcases hy : y s w with ⟨⟨r, s'⟩, w'⟩
  rw [hy] at hx
  refine ⟨added, ?_⟩
  simp only [ActOn.noting, ActOn.runFrom, hx, hy]

theorem rounds {x : τ → ActOn (List ν) (Option τ)} {y : τ → Act (Option τ)}
    (h : ∀ t, Noted (x t) (y t)) (n : Nat) (t : τ) :
    Noted (ActOn.rounds x n t) (Act.rounds y n t) := by
  induction n generalizing t with
  | zero => exact .lift (throw .interrupted)
  | succ n ih =>
      refine (h t).bind fun next => ?_
      cases next with
      | none => exact .pure ()
      | some t => exact ih t

end Noted

end Act

end Persona
