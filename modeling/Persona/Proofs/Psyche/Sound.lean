import Persona.Mention.Responder
import Persona.Proofs.World.Ending

/-!
# Sound moods

A mood can be set to anything from outside, but as long as it is an emotion of a real intensity it
stays one: drifting, colouring and answering never fail, and they take no time.

Main statement: `Responder.smooth_compose`.
-/

namespace Persona

open ActOn (Ends)

/-- What an activity does to a part of the agent that stays sound: it ends with a value and takes no
time. -/
def ActOn.Smooth {σ α : Type} (sound : σ → Prop) (x : ActOn σ α) : Prop :=
  ∀ s w, sound s → Ends x s w (fun _ s' w' => sound s' ∧ w'.clock = w.clock) fun _ _ _ => False

namespace ActOn.Smooth

variable {σ τ α β : Type} {sound : σ → Prop}

theorem pure (a : α) : Smooth sound (Pure.pure a : ActOn σ α) := fun _ _ hs => ⟨hs, rfl⟩

theorem bind {x : ActOn σ α} {f : α → ActOn σ β} (hx : Smooth sound x)
    (hf : ∀ a, Smooth sound (f a)) : Smooth sound (x >>= f) := by
  intro s w hs
  refine (hx s w hs).andThen fun a s' w' h => ?_
  exact (hf a s' w' h.1).mono (fun b s'' w'' h' => ⟨h'.1, h'.2.trans h.2⟩) fun _ _ _ h' => h'

/-- An activity chosen by a look at the state. -/
theorem get_bind {f : σ → ActOn σ β} (hf : ∀ s, sound s → Smooth sound (f s)) :
    Smooth sound (get >>= f) := fun s w hs => hf s hs s w hs

theorem set {s : σ} (hs : sound s) : Smooth sound (MonadStateOf.set s : ActOn σ PUnit) :=
  fun _ _ _ => ⟨hs, rfl⟩

theorem modify {f : σ → σ} (hf : ∀ s, sound s → sound (f s)) :
    Smooth sound (modify f : ActOn σ PUnit) := fun s _ hs => ⟨hf s hs, rfl⟩

theorem now : Smooth sound (liftM Act.now : ActOn σ Moment) := fun _ _ hs => ⟨hs, rfl⟩

theorem chance (c : Chance α) : Smooth sound (liftM (Act.chance c) : ActOn σ α) :=
  fun _ _ hs => ⟨hs, rfl⟩

/-- What must be there is there. -/
theorem look_bind {r : Except Mismatch α} {a : α} {f : α → ActOn σ β} (hr : r = .ok a)
    (hf : Smooth sound (f a)) : Smooth sound (liftM (Act.look r) >>= f) := by
  intro s w hs
  subst hr
  exact hf s w hs

theorem ofExcept_bind {r : Except Fault α} {a : α} {f : α → ActOn σ β} (hr : r = .ok a)
    (hf : Smooth sound (f a)) :
    Smooth sound (liftM (MonadExcept.ofExcept r : Act α) >>= f) := by
  intro s w hs
  subst hr
  exact hf s w hs

/-- An activity on a part of the state. -/
theorem within {part : σ → τ} {put : τ → σ → σ} {sound' : τ → Prop} {x : ActOn τ α}
    (hx : Smooth sound' x) (hpart : ∀ s, sound s → sound' (part s))
    (hput : ∀ t s, sound' t → sound s → sound (put t s)) : Smooth sound (x.within part put) := by
  intro s w hs
  exact .within ((hx (part s) w (hpart s hs)).mono (fun _ t _ h => ⟨hput t s h.1 hs, h.2⟩)
    fun _ _ _ h => h)

end ActOn.Smooth

/-! ## Moods -/

namespace Psyche.Mood

open ActOn (Smooth)

/-- An emotion of a real intensity. -/
def Sound (m : Mood) : Prop := (∃ e, m.current = .emotion e) ∧ ∃ x, m.intensity = .float x

theorem sound_new (now : Moment) : (new now).Sound := ⟨⟨_, rfl⟩, _, rfl⟩

theorem sound_feel (m : Mood) (e : Emotion) (x : Float) (now : Moment) : (m.feel e x now).Sound :=
  ⟨⟨_, rfl⟩, _, rfl⟩

theorem smooth_drift : Smooth Sound drift := by
  unfold drift
  refine .bind .now fun now => .get_bind fun m hm => ?_
  obtain ⟨⟨e, he⟩, x, hx⟩ := hm
  have hfaded : ∃ y, m.faded now = .ok y := by
    unfold faded
    rw [hx]
    exact ⟨_, rfl⟩
  obtain ⟨y, hy⟩ := hfaded
  refine .ofExcept_bind hy (.bind (.modify fun m hm => ⟨hm.1, _, rfl⟩) fun _ => ?_)
  refine .bind (.chance _) fun changes => ?_
  split
  · refine .get_bind fun m hm => ?_
    obtain ⟨⟨e, he⟩, -⟩ := hm
    refine .look_bind (drifts_of_emotion he) (.bind (.chance _) fun moves => ?_)
    split
    · exact .bind (.chance _) fun e => .set (sound_feel _ _ _ _)
    · exact .pure _
  · exact .pure _

end Psyche.Mood

/-! ## Responders -/

namespace Mention.Responder

open ActOn (Smooth)

/-- A responder without a mood, or with a sound one. -/
def Sound (r : Responder) : Prop := ∀ m, r.mood = some m → m.Sound

theorem sound_new (hasMood : Bool) (now : Moment) : (new hasMood now).Sound := by
  intro m hm
  cases hasMood with
  | false => cases hm
  | true =>
      cases hm
      exact Psyche.Mood.sound_new now

theorem smooth_colour (topic : Topic) (template : String) :
    Smooth Psyche.Mood.Sound (colour topic template) := by
  unfold colour
  have hmoved : ∀ now m, Psyche.Mood.Sound m → (moved m topic now).Sound := by
    intro now m hm
    unfold moved
    split
    · exact Psyche.Mood.sound_feel _ _ _ _
    · exact hm
  refine .bind .now fun now => .bind Psyche.Mood.smooth_drift fun _ => ?_
  refine .bind (.modify (hmoved now)) fun _ => .bind (.chance _) fun shown => ?_
  split
  · refine .get_bind fun m hm => ?_
    obtain ⟨⟨e, he⟩, -⟩ := hm
    unfold Psyche.Mood.color
    rw [ActOn.lift_bind, bind_assoc]
    exact .look_bind (Psyche.Mood.phrases_of_emotion he) (.bind (.chance _) fun phrase => .pure _)
  · exact .pure _

/-- Writing an answer keeps the table of answers. -/
theorem smooth_compose (answered : List (String × Moment)) (text : String) :
    Smooth (fun r => r.Sound ∧ r.answered = answered) (compose text) := by
  unfold compose
  refine .bind (.chance _) fun template => .get_bind fun r hr => ?_
  cases hmood : r.mood with
  | none => exact .pure _
  | some mood =>
      refine .bind (.within (smooth_colour _ _) (fun _ _ => hr.1 mood hmood) ?_) fun coloured =>
        .bind .now fun now => .pure _
      intro mood r hmood hr
      refine ⟨fun m hm => ?_, hr.2⟩
      cases hm
      exact hmood

end Mention.Responder

end Persona
