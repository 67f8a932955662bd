import Persona.Proofs.Psyche.Elapsed

/-!
# Hindsight

A look back weighs the successes and the failures among the deeds that it sees. Those are meant to
be the deeds of the last hour, but days are not counted, so a deed is seen again in the same hour
of every later day. Where that happens, outcomes can be given to the deeds such that the deeds seen
again tip the balance.

Main statement: `looks_back_an_hour_iff`.
-/

namespace Persona.Psyche

open Moment (perDay perSecond)

/-! ## The hour before -/

/-- A time lies within the hour before `now`. -/
def IsFresh (now time : Moment) : Prop :=
  0 ≤ (Span.since now time).micros ∧ (Span.since now time).micros < 3600 * perSecond

/-- A time lies within the hour before `now`, or within that hour on another day. -/
def Recurs (now time : Moment) : Prop := (Span.since now time).beyondDays < 3600 * perSecond

instance (now time : Moment) : Decidable (IsFresh now time) := inferInstanceAs (Decidable (_ ∧ _))

instance (now time : Moment) : Decidable (Recurs now time) := inferInstanceAs (Decidable (_ < _))

theorem IsFresh.recurs {now time : Moment} (h : IsFresh now time) : Recurs now time := by
  obtain ⟨hnonneg, hless⟩ := h
  unfold Recurs Span.beyondDays
  rwa [Int.emod_eq_of_lt hnonneg (by unfold perDay; unfold perSecond at *; omega)]

namespace Reflection

/-- The deeds of the last hour. -/
def lastHour (r : Reflection) (now : Moment) : List Deed :=
  r.deeds.filter fun d => IsFresh now d.time

theorem recent_eq (r : Reflection) (now : Moment) :
    r.recent now = r.deeds.filter fun d => Recurs now d.time := by
  refine List.filter_congr fun d _ => decide_eq_decide.mpr ?_
  have hseconds := (Span.since now d.time).lt_secondsWithinDay_iff 3599
  rw [Recurs, ← not_le, ← not_le, not_iff_not]
  exact hseconds

end Reflection

/-! ## Looking back -/

def successes (seen : List Deed) : Nat := seen.countP (·.success)

def failures (seen : List Deed) : Nat := seen.countP (!·.success)

@[simp] theorem successes_cons (d : Deed) (seen : List Deed) :
    successes (d :: seen) = successes seen + if d.success then 1 else 0 := List.countP_cons

@[simp] theorem failures_cons (d : Deed) (seen : List Deed) :
    failures (d :: seen) = failures seen + if !d.success then 1 else 0 := List.countP_cons

/-- What comes of a look back at some deeds: nothing if there are none; else an insight, which is
kept unless it is the balanced one, and the moment of the look. -/
inductive LookedBack (seen : List Deed) (now : Moment) (r : Reflection) :
    Option Insight × Reflection → Prop
  | blank (hseen : seen = []) : LookedBack seen now r (none, r)
  | failing (h : 2 * successes seen < failures seen) : LookedBack seen now r
      (some .manyFailures, { r with insights := r.insights ++ [.manyFailures], last := now })
  | thriving (h : 3 * failures seen < successes seen) : LookedBack seen now r
      (some .goingWell, { r with insights := r.insights ++ [.goingWell], last := now })
  | steady (hseen : seen ≠ []) (hfailing : ¬ 2 * successes seen < failures seen)
      (hthriving : ¬ 3 * failures seen < successes seen) : LookedBack seen now r
      (some .balanced, { r with last := now })

theorem successes_add_failures (seen : List Deed) :
    successes seen + failures seen = seen.length := by
  rw [List.length_eq_countP_add_countP (·.success), successes, failures]
  simp

/-- A look back always weighs the deeds that recur. -/
theorem reflect_lookedBack (r : Reflection) (now : Moment) :
    LookedBack (r.recent now) now r (r.reflect now) := by
  unfold Reflection.reflect
  dsimp only
  generalize r.recent now = seen
  have htotal := successes_add_failures seen
  have hcount : (seen.filter (·.success)).length = successes seen :=
    List.countP_eq_length_filter.symm
  rw [hcount, show seen.length - successes seen = failures seen by omega]
  by_cases hseen : seen = []
  · rw [if_pos (List.isEmpty_iff.mpr hseen)]
    exact .blank hseen
  rw [if_neg (mt List.isEmpty_iff.mp hseen), Reflection.judge]
  by_cases hfailing : successes seen * 2 < failures seen
  · rw [if_pos hfailing]
    exact .failing (by omega)
  by_cases hthriving : failures seen * 3 < successes seen
  · rw [if_neg hfailing, if_pos hthriving]
    exact .thriving (by omega)
  · rw [if_neg hfailing, if_neg hthriving]
    exact .steady hseen (by omega) (by omega)

/-- The insight, if any, that so many successes and failures give. -/
def verdict (successes failures : Nat) : Option Insight :=
  if successes + failures = 0 then none else some (Reflection.judge successes failures)

theorem LookedBack.insight_eq {seen : List Deed} {now : Moment} {r : Reflection}
    {result : Option Insight × Reflection} (h : LookedBack seen now r result) :
    result.1 = verdict (successes seen) (failures seen) := by
  have htotal := successes_add_failures seen
  unfold verdict Reflection.judge
  cases h with
  | blank hseen => rw [hseen]; rfl
  | failing h => rw [if_neg (by omega), if_pos (by omega)]
  | thriving h => rw [if_neg (by omega), if_neg (by omega), if_pos (by omega)]
  | steady hseen hfailing hthriving =>
      have hpos := List.length_pos_iff.mpr hseen
      rw [if_neg (by omega), if_neg (by omega), if_neg (by omega)]

/-! ## Outcomes that tip the balance -/

/-- Deeds at given times: of the fresh ones the first `k` fail and the others succeed, and all
others end alike. -/
def outcomes (now : Moment) (stale : Bool) : Nat → List Moment → List Deed
  | _, [] => []
  | k, time :: times =>
    if IsFresh now time then ⟨"", k == 0, "", time⟩ :: outcomes now stale (k - 1) times
    else ⟨"", stale, "", time⟩ :: outcomes now stale k times

theorem map_time_outcomes (now : Moment) (stale : Bool) (k : Nat) (times : List Moment) :
    (outcomes now stale k times).map (·.time) = times := by
  induction times generalizing k with
  | nil => rfl
  | cons time times ih =>
      unfold outcomes
      split <;> simp [ih]

/-- How many successes and failures there are among the fresh deeds, and among those that recur. -/
theorem counts_outcomes (now : Moment) (stale : Bool) (k : Nat) (times : List Moment) :
    let n := times.countP fun time => IsFresh now time
    let l := times.countP fun time => Recurs now time ∧ ¬ IsFresh now time
    let fresh := (outcomes now stale k times).filter fun d => IsFresh now d.time
    let recurring := (outcomes now stale k times).filter fun d => Recurs now d.time
    failures fresh = min k n ∧ successes fresh = n - min k n ∧
      failures recurring = min k n + (if stale then 0 else l) ∧
      successes recurring = n - min k n + (if stale then l else 0) := by
  induction times generalizing k with
  | nil => simp [outcomes, failures, successes]
  | cons time times ih =>
      dsimp only at ih ⊢
      by_cases hfresh : IsFresh now time
      · have ih := ih (k - 1)
        rw [outcomes, if_pos hfresh]
        cases k <;> simp [hfresh, hfresh.recurs] at ih ⊢ <;> omega
      · have ih := ih k
        rw [outcomes, if_neg hfresh]
        by_cases hrecurs : Recurs now time <;> cases stale <;> simp [hfresh, hrecurs] at ih ⊢ <;>
          omega

theorem verdict_eq_goingWell_iff {s f : Nat} : verdict s f = some .goingWell ↔ 3 * f < s := by
  unfold verdict Reflection.judge
  split_ifs <;> simp <;> omega

/-- Among `n` deeds of which a quarter failed, one more changes the verdict: a success if the
quarter is exact, and else a failure. -/
theorem verdict_ne {n l : Nat} (hl : 0 < l) :
    verdict (n - n / 4) (n / 4) ≠ verdict (n - n / 4 + if n % 4 == 0 then l else 0)
      (n / 4 + if n % 4 == 0 then 0 else l) := by
  intro h
  have hwell := verdict_eq_goingWell_iff (s := n - n / 4) (f := n / 4)
  rw [h, verdict_eq_goingWell_iff] at hwell
  by_cases hn : n % 4 = 0 <;> simp [hn] at hwell <;> omega

/-- A look back weighs the deeds of the last hour, whatever their outcomes, exactly if none of the
deeds is in the same hour of another day. -/
theorem looks_back_an_hour_iff (times : List Moment) (now : Moment) :
    (∀ r : Reflection, r.deeds.map (·.time) = times →
        LookedBack (r.lastHour now) now r (r.reflect now)) ↔
      ∀ time ∈ times, Recurs now time → IsFresh now time := by
  constructor
  · intro h
    by_contra hstale
    obtain ⟨time, hmem, hrecurs, hold⟩ : ∃ time ∈ times, Recurs now time ∧ ¬ IsFresh now time := by
      simpa using hstale
    have hagain : 0 < times.countP fun time => Recurs now time ∧ ¬ IsFresh now time :=
      List.countP_pos_iff.mpr ⟨time, hmem, decide_eq_true ⟨hrecurs, hold⟩⟩
    -- so many of the fresh deeds fail that one deed more can change the verdict
    obtain ⟨n, hn⟩ : ∃ n, times.countP (fun time => IsFresh now time) = n := ⟨_, rfl⟩
    obtain ⟨hfail, hsucceed, hfail', hsucceed'⟩ := counts_outcomes now (n % 4 == 0) (n / 4) times
    let r : Reflection := { deeds := outcomes now (n % 4 == 0) (n / 4) times, last := now }
    have hmeant := (h r (map_time_outcomes ..)).insight_eq
    have hdone := (reflect_lookedBack r now).insight_eq
    rw [Reflection.recent_eq, hfail', hsucceed', hmeant, Reflection.lastHour, hfail, hsucceed, hn,
      Nat.min_eq_left (Nat.div_le_self n 4)] at hdone
    exact verdict_ne hagain hdone
  · rintro h r rfl
    have hwindow : r.lastHour now = r.recent now := by
      rw [Reflection.recent_eq]
      refine List.filter_congr fun d hd => decide_eq_decide.mpr ?_
      exact ⟨IsFresh.recurs, h _ (List.mem_map_of_mem hd)⟩
    rw [hwindow]
    exact reflect_lookedBack r now

/-- A failure of a day and a minute ago is the only thing seen. -/
theorem old_failure_seen_again :
    Reflection.lastHour { deeds := [⟨"deploy", false, "", noon⟩], last := noon } nextNoon = [] ∧
      (Reflection.reflect { deeds := [⟨"deploy", false, "", noon⟩], last := noon } nextNoon).1 =
        some .manyFailures := by
  decide

end Persona.Psyche
