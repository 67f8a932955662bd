import Persona.Proofs.Number.Bounded
import Persona.Proofs.Psyche.Inward

/-!
# After a rest

A rest leaves at most three tenths of full fatigue, and a heartbeat adds at most a hundredth. So
right after a rest neither fatigue nor time asks for another one. The night does.

Main statements: `Rest.isNeeded_of_takenAt`, `heartbeat_ends`.
-/

namespace Persona.Psyche

open Number (Within)
open ActOn (Ends)

/-! ## Fatigue -/

namespace Rest

/-- A rest was taken at a moment, after work. -/
def TakenAt (r : Rest) (now : Moment) : Prop :=
  ∃ fatigue, r = { last := now, fatigue := .float (Mood.atMost 1.0 fatigue * 0.3) }

/-- Less than three eighths of full fatigue is left. -/
theorem within_rested (fatigue : Float) : Within (3 * 2 ^ 50) (Mood.atMost 1.0 fatigue * 0.3) := by
  unfold Mood.atMost
  split
  · next hlt =>
      have hshare : Within (3 * 2 ^ 50 - 1) 0.3 := by decide
      exact (Within.of_lt_one hlt).mul hshare (by decide) (by decide) (by decide)
  · decide

theorem within_energy (p : Phase) : Within (2 ^ 47) (p.energy * 0.01) := by
  cases p <;> decide

theorem isBeyond_of_not_lt {r : Rest} {x level : Float} (hr : r.fatigue = .float x)
    (h : ¬ level < x) : r.isBeyond level = .ok false := by
  have hcompare : Json.compareNumbers? (.float x) (.float level) =
      some (if x < level then some .lt else if x == level then some .eq else none) := by
    change some (Number.compareReal x level) = _
    rw [Number.compareReal, if_neg h]
  simp only [isBeyond, hr, Json.compares, hcompare]
  by_cases hlt : x < level
  · rw [if_pos hlt]
    rfl
  · rw [if_neg hlt]
    cases x == level <;> rfl

/-- After a rest and a heartbeat, fatigue is not beyond the level that asks for rest. -/
theorem isBeyond_of_takenAt {r r' : Rest} {now : Moment} (h : r.TakenAt now) (p : Phase)
    (hwork : r.work p.energy = .ok r') : r'.isBeyond 0.8 = .ok false := by
  obtain ⟨fatigue, rfl⟩ := h
  have hsum := (within_rested fatigue).add (within_energy p) (by decide)
  -- The level itself is a number of units, more than twice the bound of the sum.
  have hlevel : ¬ 0.8 < Mood.atMost 1.0 fatigue * 0.3 + p.energy * 0.01 :=
    hsum.not_lt (by decide : 0 < 7205759403792794) rfl (by decide)
  obtain rfl := Except.ok.inj hwork
  refine isBeyond_of_not_lt ?_ hlevel
  exact congrArg Json.float (if_pos hsum.lt_one)

theorem secondsWithinDay_since_self (now : Moment) : (Span.since now now).secondsWithinDay = 0 := by
  simp [Span.since, Span.secondsWithinDay]

/-- Right after a rest, only the night asks for another one. -/
theorem isNeeded_of_takenAt {r r' : Rest} {now : Moment} (h : r.TakenAt now)
    (hwork : r.work (Phase.ofMoment now).energy = .ok r') :
    r'.isNeeded now = .ok (Phase.ofMoment now).isRestful := by
  have hlast : r'.last = now := by
    obtain ⟨fatigue, rfl⟩ := h
    obtain rfl := Except.ok.inj hwork
    rfl
  rw [isNeeded, isBeyond_of_takenAt h _ hwork, hlast, secondsWithinDay_since_self]
  rfl

/-- Work makes fatigue a number that is at most one. -/
theorem fatigue_of_work {r r' : Rest} {intensity : Float} (h : r.work intensity = .ok r') :
    ∃ fatigue, r'.fatigue = .float (Mood.atMost 1.0 fatigue) := by
  unfold work tire at h
  cases hsum : r.fatigue.plusReal (intensity * 0.01) with
  | error f =>
      rw [hsum] at h
      cases h
  | ok fatigue =>
      rw [hsum] at h
      cases h
      exact ⟨fatigue, rfl⟩

theorem take_ends {r : Rest} {fatigue : Float} (h : r.fatigue = .float (Mood.atMost 1.0 fatigue))
    (now : Moment) (w : World) :
    Ends (take now) r w (fun _ r' w' => r'.TakenAt now ∧ w' = w) fun _ _ _ => False := by
  obtain ⟨last, resting, _⟩ := r
  cases h
  exact ⟨⟨fatigue, rfl⟩, rfl⟩

end Rest

/-! ## Heartbeats -/

theorem rest_pause (s : Psyche) (now : Moment) : (s.pause now).rest = s.rest := by
  unfold pause
  dsimp only
  split <;> rfl

/-- A heartbeat works, as hard as the hour is, and takes no time. -/
theorem heartbeat_ends (s : Psyche) (w : World) :
    Ends heartbeat s w
      (fun _ s' w' => s.rest.work (Phase.ofMoment w.clock).energy = .ok s'.rest ∧
        w'.time = w.time)
      fun _ _ _ => True := by
  have hmood : Ends (withMood Mood.drift) s w
      (fun _ s' w' => s'.rest = s.rest ∧ w'.time = w.time) fun _ _ _ => True :=
    .within (Mood.drift_inward.leads.ends.mono (fun _ _ _ h => ⟨rfl, h.time⟩)
      fun _ _ _ _ => trivial)
  refine .bind (.of_ok rfl (.andThen hmood fun _ s' w' ⟨hrest, htime⟩ => .step rfl ?_))
  rw [hrest]
  cases hwork : s.rest.work (Phase.ofMoment w.clock).energy with
  | error f => exact trivial
  | ok rest =>
      refine .step rfl (.step rfl (.step rfl ?_))
      split
      · exact ⟨congrArg Except.ok (rest_pause { s' with rest } w.clock).symm, htime⟩
      · exact ⟨rfl, htime⟩

end Persona.Psyche
