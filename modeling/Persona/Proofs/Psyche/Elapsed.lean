import Persona.Proofs.Json.Comparing
import Persona.Proofs.Number.Rounding
import Persona.Psyche.Reflection
import Persona.Psyche.Rest

/-!
# Elapsed time

Rest is due after four hours and reflection after an hour at most, by the whole seconds of the time
elapsed. Those are counted without the whole days, so a gap is seen only by what its last day leaves
of it.

Main statement: `gap_prompts_iff`.
-/

namespace Persona

open Moment (perDay perSecond)

namespace Span

/-- What a span leaves beyond its whole days, in microseconds. -/
def beyondDays (s : Span) : Int := s.micros % perDay

theorem lt_secondsWithinDay_iff (s : Span) (n : Nat) :
    n < s.secondsWithinDay ↔ (n + 1) * perSecond ≤ s.beyondDays := by
  have hnonneg : 0 ≤ s.micros % perDay := Int.emod_nonneg _ (by decide)
  unfold secondsWithinDay beyondDays
  generalize s.micros % perDay = rest at *
  unfold perSecond
  omega

end Span

/-! ## What can be drawn -/

/-- Every random number lies from zero up to, but not including, one. -/
def Draws.Fair (d : Draws) : Prop := ∀ x ∈ d.numbers, 0.0 ≤ x ∧ x < 1.0

namespace Chance

theorem draw_fair {d : Draws} (h : d.Fair) : 0.0 ≤ (draw d).1 ∧ (draw d).1 < 1.0 := by
  change 0.0 ≤ d.numbers.getD (d.taken % d.numbers.length) 0.0 ∧
    d.numbers.getD (d.taken % d.numbers.length) 0.0 < 1.0
  rw [List.getD_eq_getElem?_getD]
  cases hget : d.numbers[d.taken % d.numbers.length]? with
  | none => decide
  | some x => exact h x (List.mem_of_getElem? hget)

/-- No more than an hour is drawn. -/
theorem between_le_hour {d : Draws} (h : d.Fair) : (between 1800 3600 d).1 ≤ 3600 := by
  obtain ⟨hleast, hless⟩ := draw_fair h
  have hcount : (Number.ofInt 1801).toModel.unpack =
      .finite .positive (1801 * 2 ^ 42) (-42) (by decide) := by rfl
  have hfloor : Number.floor ((draw d).1 * Number.ofInt 1801) < (1801 : Nat) :=
    Number.floor_mul_lt hleast hless hcount (by decide) (by decide) (by decide) (by decide) rfl
  change 1800 + Number.floor ((draw d).1 * Number.ofInt 1801) ≤ 3600
  omega

/-- The whole hour can be drawn. -/
theorem between_eq_hour : (between 1800 3600 ⟨[0.9999], 0⟩).1 = 3600 := by decide

end Chance

namespace Psyche

def noon : Moment := ⟨12 * 3600 * perSecond⟩

/-- A minute past noon, the day after. -/
def nextNoon : Moment := ⟨noon.micros + perDay + 60 * perSecond⟩

/-! ## Rest -/

namespace Rest

/-- With a fatigue that is a number, it is known whether rest is needed. -/
theorem isNeeded_of_quantity? {r : Rest} (h : r.fatigue.quantity?.isSome) (now : Moment) :
    ∃ tired, r.isBeyond 0.8 = .ok tired ∧ r.isNeeded now =
      .ok (tired || decide (14401 * perSecond ≤ (Span.since now r.last).beyondDays) ||
        (Phase.ofMoment now).isRestful) := by
  obtain ⟨q, hq⟩ := Option.isSome_iff_exists.mp h
  have htired : r.isBeyond 0.8 = .ok _ :=
    Json.compares_of_quantity? hq (rfl : (Json.float 0.8).quantity? = some (.real 0.8)) .greater
  have hseconds := (Span.since now r.last).lt_secondsWithinDay_iff 14400
  refine ⟨_, htired, ?_⟩
  rw [isNeeded, htired, decide_eq_decide.mpr hseconds]
  rfl

/-- One that is not tired has to rest by day after four hours, days not counted. -/
theorem isNeeded_of_awake (last : Moment) {now : Moment}
    (hday : (Phase.ofMoment now).isRestful = false) :
    isNeeded { last } now = .ok true ↔ 14401 * perSecond ≤ (Span.since now last).beyondDays := by
  obtain ⟨tired, htired, hneeded⟩ := isNeeded_of_quantity? (r := { last }) rfl now
  have hrested : isBeyond { last } 0.8 = .ok false := by rfl
  obtain rfl := Except.ok.inj (hrested.symm.trans htired)
  rw [hneeded, hday, Except.ok.injEq]
  simp

end Rest

/-! ## Reflection -/

theorem Reflection.isTime_iff (r : Reflection) (now : Moment) (d : Draws) :
    (r.isTime now d).1 = true ↔
      (Chance.between 1800 3600 d).1 < (Span.since now r.last).secondsWithinDay := by
  change decide ((Chance.between 1800 3600 d).1 < _) = true ↔ _
  rw [decide_eq_true_iff]

/-! ## After a gap -/

/-- Rest is needed after a gap, whatever the fatigue and the hour, exactly if four hours and a
second of it are left beyond its whole days. It is time to reflect after a gap, whatever is drawn, exactly
if an hour and a second are. -/
theorem gap_prompts_iff (gap : Span) :
    ((∀ (r : Rest) (now : Moment), r.fatigue.quantity?.isSome → Span.since now r.last = gap →
        r.isNeeded now = .ok true) ↔ 14401 * perSecond ≤ gap.beyondDays) ∧
      ((∀ (r : Reflection) (now : Moment) (d : Draws), d.Fair → Span.since now r.last = gap →
        (r.isTime now d).1 = true) ↔ 3601 * perSecond ≤ gap.beyondDays) := by
  have hsince (now : Moment) : Span.since now ⟨now.micros - gap.micros⟩ = gap := by
    simp [Span.since]
  constructor
  · constructor
    · intro h
      -- at noon, not tired
      have hneeded := h { last := ⟨noon.micros - gap.micros⟩ } noon rfl (hsince noon)
      rwa [Rest.isNeeded_of_awake _ (by decide), hsince] at hneeded
    · rintro h r now hnumber rfl
      obtain ⟨tired, -, hneeded⟩ := Rest.isNeeded_of_quantity? hnumber now
      rw [hneeded, decide_eq_true h, Bool.or_true, Bool.true_or]
  · constructor
    · intro h
      have htime := h { last := ⟨noon.micros - gap.micros⟩ } noon ⟨[0.9999], 0⟩
        (List.forall_mem_singleton.mpr (by decide)) (hsince noon)
      rw [Reflection.isTime_iff, Chance.between_eq_hour, hsince] at htime
      exact (gap.lt_secondsWithinDay_iff 3600).mp (by omega)
    · rintro h r now d hfair rfl
      have hlimit := Chance.between_le_hour hfair
      have hseconds := (Span.since now r.last).lt_secondsWithinDay_iff 3600 |>.mpr h
      rw [Reflection.isTime_iff]
      omega

/-- A day and a minute after noon neither is due. -/
theorem day_and_minute_forgotten :
    14400 * perSecond < (Span.since nextNoon noon).micros ∧
      Rest.isNeeded { last := noon } nextNoon = .ok false ∧
      (Reflection.isTime { last := noon } nextNoon ⟨[0.5], 0⟩).1 = false := by
  decide

end Psyche

end Persona
