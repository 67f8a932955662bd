import Persona.Proofs.World.Notes

/-!
# How activities end

What holds of the state and the world when an activity ends: one statement for an end with a value
and one for an early end. Both follow the way in which activities are put together.

Main statements: `Ends.bind`, `Ends.recover`, `Ends.forever`, `Ends.rounds`.
-/

namespace Persona.ActOn

variable {σ τ ν α β : Type} {s : σ} {w : World}

/-- From a state and a world, an activity ends with a value such that `ok` holds, or early such
that `early` holds. -/
def Ends (x : ActOn σ α) (s : σ) (w : World) (ok : α → σ → World → Prop)
    (early : Fault → σ → World → Prop) : Prop :=
  match x s w with
  | ((.ok a, s'), w') => ok a s' w'
  | ((.error f, s'), w') => early f s' w'

namespace Ends

variable {ok ok' : α → σ → World → Prop} {early early' : Fault → σ → World → Prop}

theorem of_ok {x : ActOn σ α} {a : α} {s' : σ} {w' : World} (h : x s w = ((.ok a, s'), w'))
    (hok : ok a s' w') : Ends x s w ok early := by
  rw [Ends, h]
  exact hok

theorem of_error {x : ActOn σ α} {f : Fault} {s' : σ} {w' : World}
    (h : x s w = ((.error f, s'), w')) (hearly : early f s' w') : Ends x s w ok early := by
  rw [Ends, h]
  exact hearly

theorem cases {x : ActOn σ α} (h : Ends x s w ok early) :
    (∃ a s' w', x s w = ((.ok a, s'), w') ∧ ok a s' w') ∨
      ∃ f s' w', x s w = ((.error f, s'), w') ∧ early f s' w' := by
  rcases hx : x s w with ⟨⟨r, s'⟩, w'⟩
  rw [Ends, hx] at h
  cases r with
  | ok a => exact .inl ⟨a, s', w', rfl, h⟩
  | error f => exact .inr ⟨f, s', w', rfl, h⟩

/-- What holds in every state and world holds at the end. -/
theorem of_forall {x : ActOn σ α} (hok : ∀ a s' w', ok a s' w')
    (hearly : ∀ f s' w', early f s' w') : Ends x s w ok early := by
  rcases hx : x s w with ⟨⟨r, s'⟩, w'⟩
  cases r with
  | ok a => exact of_ok hx (hok a s' w')
  | error f => exact of_error hx (hearly f s' w')

theorem mono {x : ActOn σ α} (h : Ends x s w ok early)
    (hok : ∀ a s' w', ok a s' w' → ok' a s' w')
    (hearly : ∀ f s' w', early f s' w' → early' f s' w') : Ends x s w ok' early' := by
  rcases hx : x s w with ⟨⟨r, s'⟩, w'⟩
  rw [Ends, hx] at h ⊢
  cases r with
  | ok a => exact hok a s' w' h
  | error f => exact hearly f s' w' h

theorem bind {x : ActOn σ α} {f : α → ActOn σ β} {ok : β → σ → World → Prop}
    (h : Ends x s w (fun a s' w' => Ends (f a) s' w' ok early) early) :
    Ends (x >>= f) s w ok early := by
  rcases hx : x s w with ⟨⟨r, s'⟩, w'⟩
  rw [Ends, hx] at h
  cases r with
  | ok a =>
      rw [Ends, bind_of_ok hx]
      exact h
  | error e => exact of_error (bind_of_error hx) h

/-- What holds in between may be chosen. -/
theorem andThen {x : ActOn σ α} {f : α → ActOn σ β} {ok : β → σ → World → Prop}
    (hx : Ends x s w ok' early) (hf : ∀ a s' w', ok' a s' w' → Ends (f a) s' w' ok early) :
    Ends (x >>= f) s w ok early :=
  bind (hx.mono hf fun _ _ _ h => h)

/-- An activity of which it is known how it ends is passed. -/
theorem step {x : ActOn σ α} {f : α → ActOn σ β} {ok : β → σ → World → Prop} {a : α} {s' : σ}
    {w' : World} (hx : x s w = ((.ok a, s'), w')) (hf : Ends (f a) s' w' ok early) :
    Ends (x >>= f) s w ok early :=
  bind (of_ok hx hf)

/-- A handler that is given every early end. -/
theorem tryCatch {x : ActOn σ α} {handler : Fault → ActOn σ α} (h : Ends x s w ok early')
    (hhandler : ∀ f s' w', early' f s' w' → Ends (handler f) s' w' ok early) :
    Ends (tryCatch x handler) s w ok early := by
  rcases hx : x s w with ⟨⟨r, s'⟩, w'⟩
  rw [Ends, hx] at h
  cases r with
  | ok a => exact of_ok (tryCatch_of_ok hx) h
  | error f =>
      rw [Ends, tryCatch_of_error hx]
      exact hhandler f s' w' h

/-- A handler that goes on from wherever the activity ends early. -/
theorem recover {x : ActOn σ α} {handler : Fault → ActOn σ α} (h : Ends x s w ok early)
    (hhandler : ∀ f s' w', early f s' w' → Ends (handler f) s' w' ok early) :
    Ends (Persona.recover x handler) s w ok early := by
  refine tryCatch h fun f s' w' hearly => ?_
  split
  · exact hhandler f s' w' hearly
  · exact hearly

/-- An activity on a part of the state. -/
theorem within {part : σ → τ} {put : τ → σ → σ} {x : ActOn τ α}
    (h : Ends x (part s) w (fun a t w' => ok a (put t s) w') fun f t w' => early f (put t s) w') :
    Ends (x.within part put) s w ok early := by
  rcases hx : x (part s) w with ⟨⟨r, t⟩, w'⟩
  rw [Ends, hx] at h
  cases r with
  | ok a => exact of_ok (within_of_eq hx) h
  | error f => exact of_error (within_of_eq hx) h

theorem silent {x : ActOn σ α} {notes : List ν} {ok : α → σ × List ν → World → Prop}
    {early : Fault → σ × List ν → World → Prop}
    (h : Ends x s w (fun a s' w' => ok a (s', notes) w') fun f s' w' => early f (s', notes) w') :
    Ends (ActOn.silent x) (s, notes) w ok early :=
  within h

/-- An activity with notes on a part of the state. -/
theorem withinNoting {part : σ → τ} {put : τ → σ → σ} {x : ActOn (τ × List ν) α} {notes : List ν}
    {ok : α → σ × List ν → World → Prop} {early : Fault → σ × List ν → World → Prop}
    (h : Ends x (part s, notes) w (fun a t w' => ok a (put t.1 s, t.2) w')
      fun f t w' => early f (put t.1 s, t.2) w') :
    Ends (x.withinNoting part put) (s, notes) w ok early :=
  within h

/-- An activity without a state of its own leaves the state alone. -/
theorem lift {x : Act α} (hok : ∀ a w', ok a s w') (hearly : ∀ f w', early f s w') :
    Ends (liftM x) s w ok early := by
  rcases hx : x w with ⟨r, w'⟩
  cases r with
  | ok a => exact of_ok (lift_of_eq hx) (hok a w')
  | error f => exact of_error (lift_of_eq hx) (hearly f w')

/-- What holds of the state that is left, however the activity ends. -/
theorem state_iff {x : ActOn σ α} {P : σ → Prop} :
    Ends x s w (fun _ s' _ => P s') (fun _ s' _ => P s') ↔ P (x s w).1.2 := by
  rcases hx : x s w with ⟨⟨r, s'⟩, w'⟩
  rw [Ends, hx]
  cases r with
  | ok a => exact Iff.rfl
  | error f => exact Iff.rfl

theorem noting {x : ActOn (σ × List ν) α} {notes : List ν} {ok : α × σ → List ν → World → Prop}
    {early : Fault → List ν → World → Prop}
    (h : Ends x (s, notes) w (fun a s' w' => ok (a, s'.1) s'.2 w') fun f s' w' => early f s'.2 w') :
    Ends (x.noting s) notes w ok early := by
  rcases hx : x (s, notes) w with ⟨⟨r, s'⟩, w'⟩
  rw [Ends, hx] at h
  have hnoting : x.noting s notes w = ((r.map (·, s'.1), s'.2), w') := by
    simp only [ActOn.noting, hx]
  cases r with
  | ok a => exact of_ok hnoting h
  | error f => exact of_error hnoting h

/-- A repetition ends early: what each time keeps holds up to there. -/
theorem forever {x : ActOn σ Unit} {I : σ → World → Prop} {early : Fault → σ → World → Prop}
    (hx : ∀ s w, I s w → Ends x s w (fun _ => I) early) (hlast : ∀ f s w, I s w → early f s w)
    (rounds : Nat) {ok : Unit → σ → World → Prop} (hs : I s w) :
    Ends (x.forever rounds) s w ok early := by
  induction rounds generalizing s w with
  | zero => exact hlast .interrupted s w hs
  | succ rounds ih => exact (hx s w hs).andThen fun _ _ _ hs' => ih hs'

/-- What holds after a round: with a value to go on with, and without one. -/
def next (I : τ → σ → World → Prop) (last : σ → World → Prop) : Option τ → σ → World → Prop
  | some t => I t
  | none => last

/-- Rounds on a value: what each round keeps holds up to the end. -/
theorem rounds {round : τ → ActOn σ (Option τ)} {I : τ → σ → World → Prop}
    {last : σ → World → Prop} {early : Fault → σ → World → Prop}
    (hround : ∀ t s w, I t s w → Ends (round t) s w (next I last) early)
    (hlast : ∀ f t s w, I t s w → early f s w) (n : Nat) {t : τ} (hs : I t s w) :
    Ends (ActOn.rounds round n t) s w (fun _ => last) early := by
  induction n generalizing t s w with
  | zero => exact hlast .interrupted t s w hs
  | succ n ih =>
      refine (hround t s w hs).andThen fun t' s' w' hnext => ?_
      cases t' with
      | none => exact hnext
      | some t' => exact ih hnext

end Ends

end Persona.ActOn
