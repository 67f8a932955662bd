import Persona.Proofs.Number.Order
import Persona.Proofs.Psyche.Drifting
import Persona.Proofs.World.Succession

/-!
# How moods fade

What is felt has an intensity from a tenth to one, and no intensity fades below three tenths. So a
drift lets a mood fade from three tenths on, and raises a weaker one to that.

Main statement: `fades_iff`.
-/

namespace Persona.Psyche

open ActOn (Maintains)
open Number (Signed)

/-- No emotion drifts to itself. -/
theorem Emotion.not_mem_drifts (e : Emotion) : e ∉ e.drifts.1 :: e.drifts.2 := by
  cases e <;> decide

namespace Mood

/-! ## Intensities -/

theorem le_atLeast {low : Float} (h : low ≤ low) (x : Float) : low ≤ atLeast low x := by
  unfold atLeast
  split
  · next hlt => exact Number.le_of_lt hlt
  · exact h

theorem atLeast_le {low high x : Float} (h : low ≤ high) (hx : x ≤ high) :
    atLeast low x ≤ high := by
  unfold atLeast
  split
  · exact hx
  · exact h

theorem atMost_le {high : Float} (h : high ≤ high) (x : Float) : atMost high x ≤ high := by
  unfold atMost
  split
  · next hlt => exact Number.le_of_lt hlt
  · exact h

/-- An intensity from a tenth to one is a positive number. -/
theorem unpack_intensity {x : Float} (hlow : 0.1 ≤ x) (hhigh : x ≤ 1.0) :
    ∃ m e hm, x.toModel.unpack = .finite .positive m e hm := by
  have htenth : ∃ m e hm, (0.1 : Float).toModel.unpack = .finite .positive m e hm :=
    ⟨_, _, _, rfl⟩
  have hone : ∃ m e hm, (1.0 : Float).toModel.unpack = .finite .positive m e hm := ⟨_, _, _, rfl⟩
  obtain ⟨_, _, _, htenth⟩ := htenth
  obtain ⟨_, _, _, hone⟩ := hone
  rw [Number.le_iff_compare, htenth] at hlow
  rw [Number.le_iff_compare, hone] at hhigh
  match x.toModel.unpack, hlow, hhigh with
  | .finite .positive m e hm, _, _ => exact ⟨m, e, hm, rfl⟩

/-! ## Fading -/

/-- What a mood loses in so many seconds. -/
def loss (seconds : Nat) : Float := 0.01 * (Number.ofInt seconds / 60.0)

theorem faded_of_float {m : Mood} {x : Float} (h : m.intensity = .float x) (now : Moment) :
    m.faded now = .ok (atLeast 0.3 (x - loss (Span.since now m.changed).secondsWithinDay)) := by
  unfold faded
  rw [h]
  rfl

theorem secondsWithinDay_lt (s : Span) : s.secondsWithinDay < 86400 := by
  unfold Span.secondsWithinDay Moment.perDay Moment.perSecond
  omega

theorem signed_loss {seconds : Nat} (h : seconds < 86400) :
    Signed .positive (loss seconds).toModel.unpack := by
  have hoverflow := Number.le_overflow
  exact .mul rfl (.div (.ofInt (by omega)) rfl)

variable {x : Float} {seconds : Nat}

theorem sub_loss_le (hlow : 0.1 ≤ x) (hhigh : x ≤ 1.0) (h : seconds < 86400) :
    x - loss seconds ≤ x := by
  obtain ⟨m, e, hm, hx⟩ := unpack_intensity hlow hhigh
  exact Number.sub_le hx (signed_loss h)

/-- What is left is not more than before from three tenths on only. -/
theorem atLeast_sub_loss_le_iff (hlow : 0.1 ≤ x) (hhigh : x ≤ 1.0) (h : seconds < 86400) :
    (atLeast 0.3 (x - loss seconds) ≤ x ↔ 0.3 ≤ x) ∧
      (x < 0.3 → atLeast 0.3 (x - loss seconds) = 0.3) := by
  have hless := sub_loss_le hlow hhigh h
  unfold atLeast
  split
  · next hlt =>
    have hfloor : 0.3 ≤ x := Number.le_trans (Number.le_of_lt hlt) hless
    exact ⟨iff_of_true hless hfloor, fun hweak => absurd hweak (Number.not_lt_of_le hfloor)⟩
  · exact ⟨Iff.rfl, fun _ => rfl⟩

/-! ## Moods that are felt -/

/-- An emotion of an intensity from a tenth to one. -/
def Felt (m : Mood) : Prop :=
  ∃ e x, m.current = .emotion e ∧ m.intensity = .float x ∧ 0.1 ≤ x ∧ x ≤ 1.0

namespace Felt

theorem new (now : Moment) : (Mood.new now).Felt := ⟨_, _, rfl, rfl, by decide, by decide⟩

theorem feel (m : Mood) (e : Emotion) (x : Float) (now : Moment) : (m.feel e x now).Felt := by
  refine ⟨e, _, rfl, rfl, le_atLeast (by decide) _, atLeast_le (by decide) ?_⟩
  exact atMost_le (by decide) x

variable {m d : Mood} {now : Moment}

theorem workable (h : m.Felt) : m.Workable := by
  obtain ⟨e, x, he, hx, -⟩ := h
  rw [Workable, he]
  exact ⟨⟨_, rfl⟩, x, hx⟩

theorem drifted (h : m.Felt) (hd : Drifted m now d) : d.Felt := by
  cases hd with
  | turned => exact feel _ _ _ _
  | faded hy =>
      obtain ⟨e, x, he, hx, hlow, hhigh⟩ := h
      have hless := sub_loss_le hlow hhigh (secondsWithinDay_lt (Span.since now m.changed))
      cases (faded_of_float hx now).symm.trans hy
      refine ⟨e, _, he, rfl, ?_, atLeast_le (by decide) (Number.le_trans hless hhigh)⟩
      exact Number.le_trans (by decide : (0.1 : Float) ≤ 0.3) (le_atLeast (by decide) _)

end Felt

/-! ## Runs -/

/-- A change of mood. -/
inductive Shift where
  /-- An emotion that is asked for by name. -/
  | feel (emotion intensity : Json)
  | drift

def Shift.act : Shift → ActOn Mood Unit
  | feel emotion intensity => feelAs emotion intensity
  | drift => Mood.drift

theorem Shift.maintains_felt (s : Shift) : Maintains Felt s.act := by
  intro m w h
  cases s with
  | feel emotion intensity =>
      obtain ⟨-, x, -, hx, hbounds⟩ := h
      refine .step rfl (.step rfl ?_)
      cases intensity.quantity? with
      | none => exact ⟨_, x, rfl, hx, hbounds⟩
      | some q => exact Felt.feel m (requested emotion) q.toFloat w.clock
  | drift =>
      exact (drift_drifts m w).mono (fun _ d _ hd => h.drifted hd.1)
        fun _ _ _ hill => absurd h.workable hill

/-- A drift after which the emotion is the same has only let the mood fade. -/
theorem Drifted.of_same {m d : Mood} {now : Moment} {e : Emotion} (hd : Drifted m now d)
    (he : m.current = .emotion e) (hsame : d.current = m.current) :
    ∃ y, m.faded now = .ok y ∧ d.intensity = .float y := by
  cases hd with
  | faded hy => exact ⟨_, hy, rfl⟩
  | turned _ hdrifts hmem =>
      have hitself := e.not_mem_drifts
      rw [Except.ok.inj ((drifts_of_emotion he).symm.trans hdrifts)] at hitself
      cases hsame.trans he
      exact absurd hmem hitself

/-- Whatever was felt and however the mood drifted, it has an intensity from a tenth to one, and it
can drift. If it does not turn to another emotion, it is at three tenths or more then: it has not
risen exactly if it was there before, and a weaker one has risen to three tenths. -/
theorem fades_iff (start : Moment) (run : List (Shift × World)) (w : World) :
    let m := ActOn.after Shift.act (new start) run
    ∃ x m' w' x', m.intensity = .float x ∧ 0.1 ≤ x ∧ x ≤ 1.0 ∧
      drift m w = ((.ok (), m'), w') ∧ m'.intensity = .float x' ∧
      (m'.current = m.current → 0.3 ≤ x' ∧ (x' ≤ x ↔ 0.3 ≤ x) ∧ (x < 0.3 → x' = 0.3)) := by
  intro m
  have hfelt : m.Felt := Maintains.after (fun step _ => step.1.maintains_felt) (Felt.new start)
  rcases (drift_drifts m w).cases with ⟨_, m', w', hdrift, hd, -⟩ | ⟨_, _, _, -, hill⟩
  · obtain ⟨-, x', -, hx', -⟩ := hfelt.drifted hd
    obtain ⟨e, x, he, hx, hlow, hhigh⟩ := hfelt
    refine ⟨x, m', w', x', hx, hlow, hhigh, hdrift, hx', fun hsame => ?_⟩
    obtain ⟨y, hy, hm'⟩ := hd.of_same he hsame
    cases hx'.symm.trans hm'
    cases (faded_of_float hx w.clock).symm.trans hy
    exact ⟨le_atLeast (by decide) _, atLeast_sub_loss_le_iff hlow hhigh (secondsWithinDay_lt _)⟩
  · exact absurd hfelt.workable hill

/-- A world in which a mood drifts without a change. -/
def calm : World where
  clock := ⟨0⟩
  draws := ⟨[0.5], 0⟩

/-- A tiredness of a tenth rises to three tenths at the next drift, although the mood is the
same. -/
theorem drift_raises_tiredness :
    let m := ActOn.after Shift.act (new ⟨0⟩) [(.feel (.str "tired") (.float 0.1), calm)]
    m.current = .emotion .tired ∧ m.intensity = .float 0.1 ∧
      (drift m calm).1.2.current = m.current ∧
      (drift m calm).1.2.intensity = .float 0.3 ∧ ¬ (0.3 : Float) ≤ 0.1 := by
  exact ⟨rfl, rfl, rfl, rfl, by decide⟩

end Mood

end Persona.Psyche
