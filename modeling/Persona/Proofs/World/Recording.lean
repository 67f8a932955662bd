import Persona.Proofs.World.Leading

/-!
# What activities add to the record

Events of one kind can be picked out of the record. An activity with events of other kinds only adds
nothing to what is picked. An invariant of a state and a world that is kept by each activity is kept
by all of them together, whichever way they are put together and however they end.

Main statements: `Act.record_picked`, `ActOn.HasNote.bind`, `ActOn.Preserves.bind`,
`ActOn.Preserves.forever`.
-/

namespace Persona

variable {σ ν α β γ : Type}

/-! ## What is picked out of the record -/

namespace World

/-- What is picked out of the record. -/
def picked (f : Event → Option γ) (w : World) : List γ := w.trace.filterMap f

theorem picked_record {f : Event → Option γ} (hout : ∀ text, f (.out text) = none) (w : World)
    (e : Event) : (w.record e).picked f = w.picked f ++ (f e).toList :=
  Event.filterMap_append hout w.trace e

end World

open World (Same picked)

namespace Act

section

variable {f : Event → Option γ} (hout : ∀ text, f (.out text) = none)

include hout

theorem record_picked {e : Event} (he : f e = none) : (record e).Leads (Same (picked f)) := by
  intro w
  have hrecord := World.picked_record hout w e
  rwa [he, Option.toList_none, List.append_nil] at hrecord

theorem print_picked (text : String) : (print text).Leads (Same (picked f)) :=
  record_picked hout (hout _)

theorem http_picked {request : Http.Request} (he : f (.http request) = none) :
    (http request).Leads (Same (picked f)) := by
  intro w
  rw [http_apply]
  split <;> exact record_picked hout he w

theorem twitter_picked {call : Twitter.Call} (he : f (.twitter call) = none) :
    (twitter call).Leads (Same (picked f)) := by
  intro w
  rw [twitter_apply]
  split <;> exact record_picked hout he w

theorem ask_picked {question : Prompt} (he : f (.prompt question) = none) :
    (ask question).Leads (Same (picked f)) := by
  intro w
  rw [ask_apply]
  split <;> exact record_picked hout he w

theorem execute_picked {command : Command} (he : f (.run command) = none) :
    (execute command).Leads (Same (picked f)) := by
  intro w
  exact execute_leaves rfl fun _ => record_picked hout he w

theorem sleepFor_picked {seconds : Json} (he : f (.sleep seconds) = none) :
    (sleepFor seconds).Leads (Same (picked f)) := by
  intro w
  rw [sleepFor_apply]
  split <;> exact record_picked hout he w

end

end Act

/-- Where an activity that leads along a relation has led. -/
theorem Act.Leads.of_eq {R : World → World → Prop} {x : Act α} {w w' : World} {r : Except Fault α}
    (h : x.Leads R) (hrun : x w = (r, w')) : R w w' := by
  have hw := h w
  rwa [hrun] at hw

/-! ## Notes that stay -/

namespace ActOn

/-- The note is among those that there are when the activity ends. -/
def HasNote (x : ActOn (σ × List ν) α) (n : ν) (s : σ × List ν) (w : World) : Prop :=
  n ∈ (x s w).1.2.2

namespace HasNote

variable {n : ν} {s s' : σ × List ν} {w w' : World}

/-- What an activity has noted stays noted in what follows it. -/
theorem bind {x : ActOn (σ × List ν) α} {f : α → ActOn (σ × List ν) β} {g : α → ActOn σ β}
    (h : x.HasNote n s w) (hf : ∀ a, Noted (f a) (g a)) : (x >>= f).HasNote n s w := by
  rcases hrun : x s w with ⟨⟨r, s'⟩, w'⟩
  rw [HasNote, hrun] at h
  rw [HasNote]
  cases r with
  | error e =>
      rw [bind_of_error hrun]
      exact h
  | ok a =>
      rw [bind_of_ok hrun]
      exact ((hf a).notes_grow s'.1 s'.2 w').subset h

/-- An activity of which it is known how it ends is passed. -/
theorem step {x : ActOn (σ × List ν) α} {f : α → ActOn (σ × List ν) β} {a : α}
    (hx : x s w = ((.ok a, s'), w')) (h : (f a).HasNote n s' w') : (x >>= f).HasNote n s w := by
  rw [HasNote, bind_of_ok hx]
  exact h

theorem recover {x : ActOn (σ × List ν) α} {handler : Fault → ActOn (σ × List ν) α}
    {handler' : Fault → ActOn σ α} (h : x.HasNote n s w)
    (hhandler : ∀ f, Noted (handler f) (handler' f)) :
    (Persona.recover x handler).HasNote n s w := by
  rcases hrun : x s w with ⟨⟨r, s'⟩, w'⟩
  rw [HasNote, hrun] at h
  rw [HasNote]
  cases r with
  | ok a =>
      rw [recover_of_ok hrun]
      exact h
  | error e =>
      cases he : e.isFailure with
      | false =>
          rw [recover_of_other hrun he]
          exact h
      | true =>
          rw [recover_of_failure hrun he]
          exact ((hhandler e).notes_grow s'.1 s'.2 w').subset h

theorem forever {x : ActOn (σ × List ν) Unit} {y : ActOn σ Unit} (h : x.HasNote n s w)
    (hx : Noted x y) (rounds : Nat) : (x.forever (rounds + 1)).HasNote n s w :=
  h.bind fun _ => hx.forever rounds

/-- A note is taken and stays. -/
theorem note_bind (f : σ → World → ν) {x : ActOn (σ × List ν) α} {y : ActOn σ α} (hx : Noted x y)
    (s : σ) (notes : List ν) (w : World) :
    (note f >>= fun _ => x).HasNote (f s w) (s, notes) w := by
  refine .step (note_apply f s notes w) ?_
  exact (hx.notes_grow s _ w).subset (List.mem_append_right notes List.mem_cons_self)

end HasNote

end ActOn

/-! ## Invariants -/

namespace ActOn

variable {I : σ → World → Prop}

/-- What holds of the state and the world still holds when the activity ends, in whatever way. -/
def Preserves (I : σ → World → Prop) (x : ActOn σ α) : Prop :=
  ∀ s w, I s w → Ends x s w (fun _ => I) fun _ => I

namespace Preserves

theorem pure (a : α) : Preserves I (Pure.pure a : ActOn σ α) := fun _ _ hs => hs

theorem bind {x : ActOn σ α} {f : α → ActOn σ β} (hx : Preserves I x)
    (hf : ∀ a, Preserves I (f a)) : Preserves I (x >>= f) :=
  fun s w hs => (hx s w hs).andThen fun a s' w' hs' => hf a s' w' hs'

/-- An activity without a state of its own leads from a world to another one with the invariant. -/
theorem lift {R : World → World → Prop} (hR : ∀ s w w', R w w' → I s w → I s w') {x : Act α}
    (hx : x.Leads R) : Preserves I (liftM x : ActOn σ α) := by
  intro s w hs
  rcases hrun : x w with ⟨r, w'⟩
  have hs' := hR s w w' (hx.of_eq hrun) hs
  cases r with
  | ok a => exact .of_ok (lift_of_eq hrun) hs'
  | error f => exact .of_error (lift_of_eq hrun) hs'

theorem forM {f : α → ActOn σ PUnit} (h : ∀ a, Preserves I (f a)) (xs : List α) :
    Preserves I (xs.forM f) := by
  induction xs with
  | nil => exact .pure _
  | cons x xs ih => exact (h x).bind fun _ => ih

theorem recover {x : ActOn σ α} {handler : Fault → ActOn σ α} (hx : Preserves I x)
    (hhandler : ∀ f, Preserves I (handler f)) : Preserves I (Persona.recover x handler) :=
  fun s w hs => (hx s w hs).recover fun f s' w' hs' => hhandler f s' w' hs'

theorem forever {x : ActOn σ Unit} (hx : Preserves I x) (rounds : Nat) :
    Preserves I (x.forever rounds) :=
  fun _ _ hs => .forever hx (fun _ _ _ hs' => hs') rounds hs

theorem apply {x : ActOn σ α} (hx : Preserves I x) {s : σ} {w : World} (hs : I s w) :
    I (x s w).1.2 (x s w).2 := by
  rcases (hx s w hs).cases with ⟨a, s', w', hrun, hs'⟩ | ⟨f, s', w', hrun, hs'⟩
  · rw [hrun]
    exact hs'
  · rw [hrun]
    exact hs'

section

/- An invariant of the notes and the world does not speak of the state beside the notes. -/
variable {I : List ν → World → Prop}

theorem silent {R : World → World → Prop} (hR : ∀ notes w w', R w w' → I notes w → I notes w')
    {x : ActOn σ α} (hx : x.Leads R) : Preserves (fun s w => I s.2 w) (ActOn.silent x) :=
  fun s w hs => .silent (s := s.1) (hx.ends.mono (fun _ _ w' h => hR s.2 w w' h hs)
    fun _ _ w' h => hR s.2 w w' h hs)

/-- A note and what follows it, if the invariant does not hold in between. -/
theorem note_lift {f : σ → World → ν} {x : Act α}
    (hx : ∀ s notes w, I notes w → I (notes ++ [f s w]) (x w).2) :
    Preserves (fun s w => I s.2 w) (ActOn.note f >>= fun _ => liftM x) := by
  intro s w hs
  have hs' := hx s.1 s.2 w hs
  refine .step (note_apply f s.1 s.2 w) ?_
  rcases hrun : x w with ⟨r, w'⟩
  rw [hrun] at hs'
  cases r with
  | ok a => exact .of_ok (lift_of_eq hrun) hs'
  | error e => exact .of_error (lift_of_eq hrun) hs'

theorem noting {x : ActOn (σ × List ν) α} (hx : Preserves (fun s w => I s.2 w) x) (s : σ) :
    Preserves I (x.noting s) :=
  fun notes w hs => .noting (hx (s, notes) w hs)

end

end Preserves

end ActOn

end Persona
