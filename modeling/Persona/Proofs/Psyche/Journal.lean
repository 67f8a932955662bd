import Persona.Proofs.Psyche.Rested

/-!
# The journal can be written

A journal gives the intensity of the mood and the fatigue as percentages, so both must be numbers.
From outside they can be set to anything, but a heartbeat makes numbers of them or fails.

Main statements: `Settled.journal`, `heartbeat_settles`.
-/

namespace Persona.Psyche

open ActOn (Ends)

/-- The intensity of the mood and the fatigue are real numbers. -/
structure Settled (s : Psyche) : Prop where
  intensity : ∃ x, s.mood.intensity = .float x
  fatigue : ∃ x, s.rest.fatigue = .float x

/-! ## Writing the journal -/

theorem percent_float (places : Nat) (x : Float) :
    Json.percent places (.float x) = .ok (Number.percent places x) := rfl

theorem Rest.exists_isBeyond {r : Rest} {x : Float} (h : r.fatigue = .float x) (level : Float) :
    ∃ beyond, r.isBeyond level = .ok beyond := by
  have hcompare : Json.compareNumbers? (.float x) (.float level) =
      some (Number.compareReal x level) := rfl
  simp only [isBeyond, h, Json.compares, hcompare]
  cases Number.compareReal x level with
  | none => exact ⟨_, rfl⟩
  | some order => exact ⟨_, rfl⟩

theorem Rest.exists_status {r : Rest} {x : Float} (h : r.fatigue = .float x) (now : Moment) :
    ∃ text, r.status now = .ok text := by
  obtain ⟨tired, htired⟩ := exists_isBeyond h 0.8
  obtain ⟨worn, hworn⟩ := exists_isBeyond h 0.5
  obtain ⟨needed, hneeded⟩ : ∃ needed, r.isNeeded now = .ok needed := by
    rw [isNeeded, htired]
    exact ⟨_, rfl⟩
  rw [status, hneeded, hworn]
  cases r.resting <;> cases needed <;> cases worn <;> exact ⟨_, rfl⟩

theorem Settled.journal {s : Psyche} (h : s.Settled) (now : Moment) :
    ∃ text, s.journal now = .ok text := by
  obtain ⟨⟨x, hx⟩, y, hy⟩ := h
  obtain ⟨status, hstatus⟩ := Rest.exists_status hy now
  unfold Psyche.journal
  rw [hx, hy, hstatus, percent_float, percent_float]
  exact ⟨_, rfl⟩

/-! ## After a heartbeat -/

theorem Mood.drift_settles (m : Mood) (w : World) :
    Ends drift m w (fun _ m' _ => ∃ x, m'.intensity = .float x) fun _ _ _ => True := by
  unfold drift
  refine .step rfl (.step rfl ?_)
  cases m.faded w.clock with
  | error f => exact trivial
  | ok x =>
      refine .step rfl (.step rfl (.step rfl ?_))
      split
      · refine .step rfl ?_
        cases drifts { m with intensity := .float x } with
        | error e => exact trivial
        | ok next =>
            refine .step rfl (.step rfl ?_)
            split
            · exact .step rfl ⟨_, rfl⟩
            · exact ⟨x, rfl⟩
      · exact ⟨x, rfl⟩

theorem settled_pause {s : Psyche} (h : s.Settled) (now : Moment) : (s.pause now).Settled := by
  unfold pause
  dsimp only
  split
  · exact ⟨⟨_, rfl⟩, h.fatigue⟩
  · exact ⟨⟨_, rfl⟩, h.fatigue⟩
  · exact ⟨h.intensity, h.fatigue⟩

theorem heartbeat_settles (s : Psyche) (w : World) :
    Ends heartbeat s w (fun _ s' _ => s'.Settled) fun _ _ _ => True := by
  refine .step rfl (.bind (.within ((Mood.drift_settles s.mood w).mono ?_ fun _ _ _ h => h)))
  intro _ mood w' hmood
  refine .step rfl ?_
  cases hwork : s.rest.work (Phase.ofMoment w.clock).energy with
  | error f => exact trivial
  | ok rest =>
      obtain ⟨fatigue, hfatigue⟩ := Rest.fatigue_of_work hwork
      have hsettled : Settled { s with mood, rest } := ⟨hmood, _, hfatigue⟩
      refine .step rfl (.step rfl (.step rfl ?_))
      split
      · exact settled_pause hsettled _
      · exact hsettled

end Persona.Psyche
