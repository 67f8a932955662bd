import Persona.Proofs.World.Ending

/-!
# One activity after the other

Activities on the same state, each in a world of its own: between two of them anything may happen
to the world. However an activity ends, the next one goes on from the state that it left. What each
of them keeps, all of them together keep.

Main statements: `Maintains.after`, `Noted.after`.
-/

namespace Persona.ActOn

variable {σ ν α β ι : Type} {I : σ → Prop}

/-! ## What an activity keeps -/

/-- What holds of the state still holds when the activity ends, in whatever way. -/
def Maintains (I : σ → Prop) (x : ActOn σ α) : Prop :=
  ∀ s w, I s → Ends x s w (fun _ s' _ => I s') fun _ s' _ => I s'

namespace Maintains

theorem bind {x : ActOn σ α} {f : α → ActOn σ β} (hx : Maintains I x)
    (hf : ∀ a, Maintains I (f a)) : Maintains I (x >>= f) :=
  fun s w hs => (hx s w hs).andThen fun a s' w' hs' => hf a s' w' hs'

theorem pure (a : α) : Maintains I (Pure.pure a : ActOn σ α) := fun _ _ hs => hs

theorem lift (x : Act α) : Maintains I (liftM x : ActOn σ α) :=
  fun _ _ hs => .lift (fun _ _ => hs) fun _ _ => hs

theorem modify {f : σ → σ} (h : ∀ s, I s → I (f s)) : Maintains I (modify f : ActOn σ PUnit) :=
  fun s _ hs => h s hs

theorem discard {x : ActOn σ α} (hx : Maintains I x) : Maintains I (discard x) :=
  hx.bind fun _ => .pure _

end Maintains

/-! ## Runs -/

/-- The state after some activities, each in a world of its own. -/
def after (act : ι → ActOn σ α) (s : σ) (run : List (ι × World)) : σ :=
  run.foldl (fun s step => (act step.1 s step.2).1.2) s

theorem after_append (act : ι → ActOn σ α) (s : σ) (run more : List (ι × World)) :
    after act s (run ++ more) = after act (after act s run) more :=
  List.foldl_append

theorem after_cons (act : ι → ActOn σ α) (s : σ) (i : ι) (w : World) (run : List (ι × World)) :
    after act s ((i, w) :: run) = after act (act i s w).1.2 run := rfl

/-- What each activity of a run keeps, the run keeps. -/
theorem Maintains.after {act : ι → ActOn σ α} {run : List (ι × World)}
    (h : ∀ step ∈ run, Maintains I (act step.1)) {s : σ} (hs : I s) : I (after act s run) := by
  induction run generalizing s with
  | nil => exact hs
  | cons step run ih =>
      have hstep := h step List.mem_cons_self s step.2 hs
      exact ih (fun next hnext => h next (List.mem_cons_of_mem step hnext))
        (Ends.state_iff.mp hstep)

/-- With notes, a run leaves the same state. -/
theorem Noted.after {noting : ι → ActOn (σ × List ν) α} {act : ι → ActOn σ α}
    (h : ∀ i, Noted (noting i) (act i)) (s : σ) (notes : List ν) (run : List (ι × World)) :
    (ActOn.after noting (s, notes) run).1 = ActOn.after act s run := by
  induction run generalizing s notes with
  | nil => rfl
  | cons step run ih =>
      obtain ⟨added, hstep⟩ := h step.1 s notes step.2
      obtain ⟨i, w⟩ := step
      rw [after_cons, after_cons, hstep]
      exact ih _ _

end Persona.ActOn
