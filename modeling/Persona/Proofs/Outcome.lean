import Mathlib.Data.List.Forall2

/-!
# Outcomes

What is known of a computation that may fail, from its result: each of its steps has succeeded, or
one of them has failed, and a walk over a list has succeeded at every element.
-/

namespace Persona.Outcome

variable {ε α β : Type}

theorem bind_of_ok {x : Except ε α} {a : α} (h : x = .ok a) (f : α → Except ε β) :
    x >>= f = f a := by
  rw [h]
  rfl

/-- Both steps of a sequence that succeeds have succeeded. -/
theorem of_bind_eq_ok {x : Except ε α} {f : α → Except ε β} {b : β} (h : x >>= f = .ok b) :
    ∃ a, x = .ok a ∧ f a = .ok b := by
  cases x with
  | error e => cases h
  | ok a => exact ⟨a, rfl, h⟩

/-- One of both steps of a sequence that fails has failed. -/
theorem of_bind_eq_error {x : Except ε α} {f : α → Except ε β} {e : ε} (h : x >>= f = .error e) :
    x = .error e ∨ ∃ a, x = .ok a ∧ f a = .error e := by
  cases x with
  | error e' =>
      cases h
      exact .inl rfl
  | ok a => exact .inr ⟨a, rfl, h⟩

theorem of_mapError_eq_error {δ : Type} {x : Except ε α} {f : ε → δ} {e : δ}
    (h : x.mapError f = .error e) : ∃ e', e = f e' := by
  cases x with
  | error e' =>
      cases h
      exact ⟨e', rfl⟩
  | ok a => cases h

/-- A walk succeeds when each of its steps does, and gives the results in their order. -/
theorem mapM_of_forall {f : α → Except ε β} {R : α → β → Prop} {xs : List α}
    (h : ∀ x ∈ xs, ∃ y, f x = .ok y ∧ R x y) :
    ∃ ys, xs.mapM f = .ok ys ∧ List.Forall₂ R xs ys := by
  induction xs with
  | nil => exact ⟨[], rfl, .nil⟩
  | cons x xs ih =>
      obtain ⟨y, hy, hR⟩ := h x (by simp)
      obtain ⟨ys, hys, hall⟩ := ih fun z hz => h z (List.mem_cons_of_mem x hz)
      refine ⟨y :: ys, ?_, .cons hR hall⟩
      rw [List.mapM_cons, hy, hys]
      rfl

theorem filterAuxM_of_forall {f : α → Except ε Bool} {p : α → Bool} {xs : List α} (acc : List α)
    (h : ∀ x ∈ xs, f x = .ok (p x)) :
    xs.filterAuxM f acc = .ok ((xs.filter p).reverse ++ acc) := by
  induction xs generalizing acc with
  | nil => rfl
  | cons x xs ih =>
      rw [List.filterAuxM, h x (by simp)]
      refine (ih _ fun z hz => h z (List.mem_cons_of_mem x hz)).trans ?_
      cases hx : p x with
      | false => simp [hx]
      | true => simp [hx]

/-- Filtering by a test that never fails is filtering by its answers. -/
theorem filterM_of_forall {f : α → Except ε Bool} {p : α → Bool} {xs : List α}
    (h : ∀ x ∈ xs, f x = .ok (p x)) : xs.filterM f = .ok (xs.filter p) := by
  rw [List.filterM, filterAuxM_of_forall [] h, List.append_nil]
  exact congrArg Except.ok (List.reverse_reverse _)

end Persona.Outcome
