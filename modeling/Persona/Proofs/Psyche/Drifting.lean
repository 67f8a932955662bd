import Persona.Proofs.World.Ending
import Persona.Psyche.Mood

/-!
# How moods drift

A mood that drifts fades, and now and then it turns to a neighbouring emotion. Nothing but a tone
that cannot be looked up, or an intensity that is no double, stops it.

Main statement: `drift_drifts`.
-/

namespace Persona.Psyche.Mood

open ActOn (Ends)

/-- The tone can be looked up in the tables, and the intensity is a double. -/
def Workable (m : Mood) : Prop :=
  (∃ e?, m.current.emotion? = .ok e?) ∧ ∃ x, m.intensity = .float x

/-- What a mood can drift to: it fades, and it may turn to one of the neighbouring emotions, of
four fifths of its strength. -/
inductive Drifted (m : Mood) (now : Moment) : Mood → Prop
  | faded {x : Float} (hx : m.faded now = .ok x) : Drifted m now { m with intensity := .float x }
  | turned {x : Float} {first e : Emotion} {rest : List Emotion} (hx : m.faded now = .ok x)
    (hdrifts : m.drifts = .ok (first, rest)) (he : e ∈ first :: rest) :
    Drifted m now (feel { m with intensity := .float x } e (x * 0.8) now)

namespace Workable

variable {m d : Mood} {now : Moment}

theorem new (now : Moment) : (Mood.new now).Workable := ⟨⟨_, rfl⟩, _, rfl⟩

theorem feel (m : Mood) (e : Emotion) (x : Float) (now : Moment) : (m.feel e x now).Workable :=
  ⟨⟨_, rfl⟩, _, rfl⟩

theorem exists_faded (h : m.Workable) (now : Moment) : ∃ x, m.faded now = .ok x := by
  obtain ⟨-, x, hx⟩ := h
  unfold faded
  rw [hx]
  exact ⟨_, rfl⟩

theorem exists_drifts (h : m.Workable) : ∃ choice, m.drifts = .ok choice := by
  obtain ⟨⟨e?, he⟩, -⟩ := h
  rw [drifts, he]
  cases e? <;> exact ⟨_, rfl⟩

theorem exists_phrases (h : m.Workable) : ∃ choice, m.phrases = .ok choice := by
  obtain ⟨⟨e?, he⟩, -⟩ := h
  rw [phrases, he]
  cases e? <;> exact ⟨_, rfl⟩

theorem drifted (h : m.Workable) (hd : Drifted m now d) : d.Workable := by
  cases hd with
  | faded => exact ⟨h.1, _, rfl⟩
  | turned => exact .feel _ _ _ _

end Workable

/-- Drifting uses up draws and nothing else, and only a mood that is not workable stops it. -/
theorem drift_drifts (m : Mood) (w : World) :
    Ends drift m w (fun _ d w' => Drifted m w.clock d ∧ ∃ draws, w' = { w with draws })
      fun _ _ _ => ¬ m.Workable := by
  unfold drift
  refine .step rfl (.step rfl ?_)
  cases hx : m.faded w.clock with
  | error f =>
      refine .of_error rfl fun h => ?_
      obtain ⟨x, hok⟩ := h.exists_faded w.clock
      cases hx.symm.trans hok
  | ok x =>
      refine .step rfl (.step rfl (.step rfl ?_))
      split
      · refine .step rfl ?_
        have hsame : drifts { m with intensity := .float x } = m.drifts := rfl
        rw [hsame]
        cases hdrifts : m.drifts with
        | error e =>
            refine .of_error rfl fun h => ?_
            obtain ⟨choice, hok⟩ := h.exists_drifts
            cases hdrifts.symm.trans hok
        | ok choice =>
            obtain ⟨first, rest⟩ := choice
            refine .step rfl (.step rfl ?_)
            split
            · exact .step rfl (.of_ok rfl ⟨.turned hx hdrifts (Chance.pick_mem ..), _, rfl⟩)
            · exact .of_ok rfl ⟨.faded hx, _, rfl⟩
      · exact .of_ok rfl ⟨.faded hx, _, rfl⟩

end Persona.Psyche.Mood
