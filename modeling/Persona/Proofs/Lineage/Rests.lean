import Persona.Proofs.Lineage.Inward
import Persona.Proofs.Psyche.Rested
import Persona.Proofs.World.Sleeping

/-!
# From one rest to the next

A rest takes the place of the waiting at the end of a cycle. By day the cycle after a rest waits,
since a rest leaves nothing that asks for another one. At night the cycle after a rest is a rest
again, so no time passes, and it stays night.

Main statement: `rests_apart_iff_by_day`.
-/

namespace Persona.Lineage.Member

open ActOn (Ends Noted)
open Psyche (Phase)

/-! ## Cycles that sleep -/

theorem wait_sleeps_once : wait.SleepsOnce := by
  refine .after (setting_inward _ _).leads fun base => .after .get fun m => ?_
  have hseconds (seconds : Json) : ActOn.SleepsOnce (liftM (Act.sleepFor seconds) : Life Unit) :=
    .sleepFor seconds
  cases m.psyche with
  | none => exact .after (.pure _) hseconds
  | some psyche =>
      have hvary : ActOn.Inward (liftM (Json.float <$> psyche.vary base) : Life Json) :=
        .lift (.bind (psyche.vary_inward base) fun _ => .pure _)
      exact .after hvary.leads hseconds

theorem attend_sleeps_once : attend.SleepsOnce := by
  refine .after (.bind examine_inward.leads fun _ => .pure _) fun _ => .after .get fun m => ?_
  refine .ite ?_ wait_sleeps_once
  exact .after (.bind .get fun _ => .pure _) fun _ => .after (info_inward _).leads fun _ =>
    wait_sleeps_once

theorem explore_sleeps_once (psyche : Psyche) :
    ActOn.SleepsOnce (do ponder (← wonder psyche); attend) :=
  .after (wonder_inward _).leads fun _ => .after (ponder_inward _).leads fun _ =>
    attend_sleeps_once

/-! ## Lives with notes of the rests -/

/-- A cycle, with a note of the world before the line that tells of a rest. -/
def cycleNoting : ActOn (Member × List World) Unit := do
  let m : Member ← ActOn.silent get
  match m.psyche with
  | none => ActOn.silent attend
  | some psyche =>
    let time ← ActOn.silent now
    let psyche ← ActOn.silent (withPsyche psyche (do Psyche.heartbeat; get))
    if ← (Act.look (psyche.rest.isNeeded time) : Act Bool) then
      let status ← (Act.look (psyche.rest.status time) : Act String)
      ActOn.silent (info status)
      ActOn.note fun _ w => w
      ActOn.silent (do
        info "Taking a rest cycle..."
        withPsyche psyche (Psyche.withRest (Psyche.Rest.take time)))
    else
      ActOn.silent (do
        ponder (← wonder psyche)
        attend)

def workNoting : ActOn (Member × List World) Unit := do
  let sleeps ← (Act.sleepsLeft : Act Nat)
  let logs ← (Act.logsLeft : Act Nat)
  tryCatch (cycleNoting.forever (2 * sleeps + logs)) fun f => ActOn.silent (match f with
    | .interrupted => do
      info "Shutdown signal received"
      shutdown
    | f => throw f)

def liveNoting : ActOn (Member × List World) Unit := do
  ActOn.silent prepare
  workNoting

theorem noted_cycle : Noted cycleNoting cycle := by
  refine .bind (.silent _) fun m => ?_
  cases m.psyche with
  | none => exact .silent _
  | some psyche =>
      refine .bind (.silent _) fun time => .bind (.silent _) fun psyche => ?_
      refine .bind (.lift _) fun needed => ?_
      split
      · exact .bind (.lift _) fun _ => .bind (.silent _) fun _ => .note_bind (.silent _) _
      · exact .silent _

theorem noted_work : Noted workNoting work := by
  refine .bind (.lift _) fun sleeps => .bind (.lift _) fun logs => ?_
  exact .tryCatch (noted_cycle.forever _) fun f => .silent _

theorem noted_live : Noted liveNoting live := .bind (.silent _) fun _ => noted_work

/-! ## From one rest to the next -/

/-- The hours in which to rest. -/
def AtNight (time : Moment) : Prop := time.hour < 5 ∨ 23 ≤ time.hour

theorem isRestful_iff_atNight (time : Moment) :
    (Phase.ofMoment time).isRestful = true ↔ AtNight time := by
  have hnight (p : Phase) : p.isRestful = true ↔ p = .night := by cases p <;> decide
  rw [hnight, Phase.ofMoment, AtNight]
  unfold Phase.ofHour
  split_ifs <;> simp <;> omega

/-- The rest was taken just now. -/
def Rested (m : Member) (w : World) : Prop :=
  ∃ psyche, m.psyche = some psyche ∧ psyche.rest.TakenAt w.clock

/-- Between a rest and the next one there are sleeps, except at night, when no time passes. -/
def Apart (rest next : World) : Prop :=
  ∃ between, next.sleeps = rest.sleeps ++ between ∧ (between = [] ↔ AtNight rest.clock) ∧
    (between = [] → next.clock = rest.clock)

/-- What holds of a member and its world since the last rest. At night there is no sleep after it,
and before the first sleep the rest was taken just now. -/
def SinceRest (rest : World) (m : Member) (w : World) : Prop :=
  ∃ between, w.sleeps = rest.sleeps ++ between ∧ (AtNight rest.clock → between = []) ∧
    (between = [] → w.clock = rest.clock ∧ Rested m w)

variable {rest w w' : World} {m m' : Member} {notes : List World}

/-- A cycle that sleeps is not one right after a rest at night. -/
theorem SinceRest.of_sleep {seconds : Json} (h : SinceRest rest m w)
    (hday : Rested m w → ¬ AtNight w.clock) (hsleep : w'.sleeps = w.sleeps ++ [seconds]) :
    SinceRest rest m' w' := by
  obtain ⟨between, hbetween, hnight, hrested⟩ := h
  refine ⟨between ++ [seconds], by rw [hsleep, hbetween, List.append_assoc], ?_, by simp⟩
  intro hrest
  obtain ⟨hclock, hjust⟩ := hrested (hnight hrest)
  exact absurd (hclock ▸ hrest) (hday hjust)

/-- A cycle that rests right after a rest is one at night. -/
theorem SinceRest.apart (h : SinceRest rest m w) (hnight : Rested m w → AtNight w.clock)
    (htime : w'.time = w.time) : Apart rest w' := by
  obtain ⟨hclock, hsleeps⟩ := Prod.mk.inj htime
  obtain ⟨between, hbetween, hrest, hrested⟩ := h
  refine ⟨between, hsleeps.trans hbetween, ⟨fun hnil => ?_, hrest⟩, fun hnil => ?_⟩
  · obtain ⟨hsame, hjust⟩ := hrested hnil
    exact hsame ▸ hnight hjust
  · exact hclock.trans (hrested hnil).1

/-- What the cycles keep: rests are apart, and so far the next one would be. -/
structure Resting (s : Member × List World) (w : World) : Prop where
  apart : s.2.IsChain Apart
  since : ∀ rest, s.2.getLast? = some rest → SinceRest rest s.1 w

theorem Resting.of_sleep {seconds : Json} (h : Resting (m, notes) w)
    (hday : Rested m w → ¬ AtNight w.clock) (hsleep : w'.sleeps = w.sleeps ++ [seconds]) :
    Resting (m', notes) w' :=
  ⟨h.apart, fun rest hrest => (h.since rest hrest).of_sleep hday hsleep⟩

theorem Resting.apart_concat (h : Resting (m, notes) w) (hnight : Rested m w → AtNight w.clock)
    (htime : w'.time = w.time) : (notes ++ [w']).IsChain Apart := by
  refine List.isChain_append.mpr ⟨h.apart, .singleton _, ?_⟩
  intro rest hrest next hnext
  cases hnext
  exact (h.since rest hrest).apart hnight htime

/-- Right after a rest, the next cycle rests just if it is night. -/
theorem isNeeded_iff_of_rested {psyche psyche' : Psyche} {needed : Bool}
    (hm : m.psyche = some psyche)
    (hwork : psyche.rest.work (Phase.ofMoment w.clock).energy = .ok psyche'.rest)
    (hneeded : psyche'.rest.isNeeded w.clock = .ok needed) (h : Rested m w) :
    needed = true ↔ AtNight w.clock := by
  obtain ⟨_, hpsyche, htaken⟩ := h
  obtain rfl := Option.some.inj (hm.symm.trans hpsyche)
  rw [← isRestful_iff_atNight]
  rw [Psyche.Rest.isNeeded_of_takenAt htaken hwork] at hneeded
  rw [Except.ok.inj hneeded]

theorem beat_ends (psyche : Psyche) (m : Member) (w : World) :
    Ends (withPsyche psyche (do Psyche.heartbeat; get)) m w
      (fun psyche' _ w' =>
        psyche.rest.work (Phase.ofMoment w.clock).energy = .ok psyche'.rest ∧ w'.time = w.time)
      fun _ _ _ => True :=
  .within (.andThen (psyche.heartbeat_ends w) fun _ _ _ h => h)

theorem rest_ends {psyche : Psyche} {fatigue : Float} {time : Moment}
    (h : psyche.rest.fatigue = .float (Psyche.Mood.atMost 1.0 fatigue)) (m : Member) (w : World)
    (hclock : w.clock = time) :
    Ends (do
        info "Taking a rest cycle..."
        withPsyche psyche (Psyche.withRest (Psyche.Rest.take time))) m w
      (fun _ m' w' => w'.time = w.time ∧ Rested m' w') fun _ _ _ => True := by
  have hinfo := (info_inward "Taking a rest cycle...").leads
  refine .andThen (hinfo.ends.mono (fun _ _ _ h => h.time) fun _ _ _ _ => trivial) ?_
  intro _ m' w' htime
  refine .within (.within ((Psyche.Rest.take_ends h time w').mono ?_ fun _ _ _ h => h.elim))
  rintro _ rest' w'' ⟨htaken, rfl⟩
  have hclock : w''.clock = time := (congrArg Prod.fst htime).trans hclock
  exact ⟨htime, _, rfl, hclock ▸ htaken⟩

/-- The world of a rest is noted, and from there on the rest was taken just now. -/
theorem Resting.of_rest (h : (notes ++ [rest]).IsChain Apart) (hrested : Rested m w)
    (htime : w.time = rest.time) : Resting (m, notes ++ [rest]) w := by
  obtain ⟨hclock, hsleeps⟩ := Prod.mk.inj htime
  refine ⟨h, fun rest' hrest' => ?_⟩
  obtain rfl : rest = rest' := by simpa using hrest'
  exact ⟨[], by rw [hsleeps, List.append_nil], fun _ => rfl, fun _ => ⟨hclock, hrested⟩⟩

/-- The rest of a cycle in which a rest is needed. -/
theorem restCycle_ends {psyche : Psyche} {fatigue : Float} {time : Moment}
    (hfatigue : psyche.rest.fatigue = .float (Psyche.Mood.atMost 1.0 fatigue))
    (h : notes.IsChain Apart) (hnext : ∀ w', w'.time = w.time → (notes ++ [w']).IsChain Apart)
    (hclock : w.clock = time) :
    Ends (do
        let status ← (Act.look (psyche.rest.status time) : Act String)
        ActOn.silent (info status)
        ActOn.note fun _ w => w
        ActOn.silent (do
          info "Taking a rest cycle..."
          withPsyche psyche (Psyche.withRest (Psyche.Rest.take time))))
      (m, notes) w (fun _ => Resting) fun _ s _ => s.2.IsChain Apart := by
  cases psyche.rest.status time with
  | error e => exact .of_error rfl h
  | ok status =>
      have hinfo := (info_inward status).leads
      refine .step rfl (.bind (.silent (hinfo.ends.mono ?_ fun _ _ _ _ => h)))
      intro _ m₁ w₁ hawake
      have htime := hawake.time
      have hchain := hnext w₁ htime
      have hclock₁ : w₁.clock = time := (congrArg Prod.fst htime).trans hclock
      refine .step rfl (.silent ((rest_ends hfatigue m₁ w₁ hclock₁).mono ?_ fun _ _ _ _ => hchain))
      exact fun _ _ _ ⟨htime', hrested⟩ => .of_rest hchain hrested htime'

theorem cycle_ends (h : Resting (m, notes) w) :
    Ends cycleNoting (m, notes) w (fun _ => Resting) fun _ s _ => s.2.IsChain Apart := by
  refine .step rfl ?_
  dsimp only
  cases hm : m.psyche with
  | none =>
      -- Without a psyche no rest was taken, and the cycle sleeps.
      have hday : Rested m w → ¬ AtNight w.clock := by
        rintro ⟨psyche, hpsyche, -⟩
        exact nomatch hm.symm.trans hpsyche
      exact .silent ((attend_sleeps_once m w).mono (fun _ _ _ ⟨_, hsleep⟩ => h.of_sleep hday hsleep)
        fun _ _ _ _ => h.apart)
  | some psyche =>
      refine .step rfl (.bind (.silent ((beat_ends psyche m w).mono ?_ fun _ _ _ _ => h.apart)))
      intro psyche' m₁ w₁ ⟨hwork, htime⟩
      obtain ⟨hclock, hsleeps⟩ := Prod.mk.inj htime
      obtain ⟨fatigue, hfatigue⟩ := Psyche.Rest.fatigue_of_work hwork
      cases hneeded : psyche'.rest.isNeeded w.clock with
      | error e => exact .of_error rfl h.apart
      | ok needed =>
          -- If the last cycle was a rest, the hour alone decides on this one.
          have hiff := isNeeded_iff_of_rested hm hwork hneeded
          refine .step rfl ?_
          cases needed with
          | false =>
              have hday : Rested m w → ¬ AtNight w.clock := fun hrested hnight =>
                nomatch (hiff hrested).mpr hnight
              refine .silent ((explore_sleeps_once psyche' m₁ w₁).mono ?_ fun _ _ _ _ => h.apart)
              exact fun _ _ _ ⟨_, hsleep⟩ => h.of_sleep hday (hsleeps ▸ hsleep)
          | true =>
              exact restCycle_ends hfatigue h.apart (fun w₂ htime₂ =>
                h.apart_concat (fun hrested => (hiff hrested).mp rfl) (htime₂.trans htime)) hclock

theorem work_ends (m : Member) (w : World) :
    Ends workNoting (m, []) w (fun _ s _ => s.2.IsChain Apart) fun _ s _ => s.2.IsChain Apart := by
  have hstart : Resting (m, []) w := ⟨.nil, nofun⟩
  refine .step rfl (.step rfl (.tryCatch (.forever (fun _ _ h => cycle_ends h)
    (fun _ _ _ h => h.apart) _ hstart) ?_))
  exact fun _ _ _ hchain => .silent (.of_forall (fun _ _ _ => hchain) fun _ _ _ => hchain)

/-- In every life, there are sleeps between a rest and the next one just if the first of them is not
at night. -/
theorem rests_apart_iff_by_day (m : Member) (w : World) :
    (liveNoting.noting m).forget = live.runFrom m ∧
      ((liveNoting.noting m).notes w).IsChain Apart :=
  have hlife : Ends liveNoting (m, []) w (fun _ s _ => s.2.IsChain Apart)
      fun _ s _ => s.2.IsChain Apart :=
    .bind (.silent (.of_forall (fun _ m' w' => work_ends m' w') fun _ _ _ => .nil))
  ⟨(Act.Noted.noting noted_live m).forget_eq, Ends.state_iff.mp (.noting hlife)⟩

/-- A member of a later generation that last rested at an hour. -/
def restedAt (hour : Int) : Member :=
  let time : Moment := ⟨hour * 3600 * Moment.perSecond⟩
  { generation := .int 1
    settings := .obj [("deployment_interval", .int 20000)]
    id := "late"
    born := time
    psyche := some
      { name := "Phi-1000"
        birth := time
        mood := .new time
        curiosity := { workspace := .home }
        reflection := { last := time }
        rest := { last := time } } }

/-- A world at an hour, in which the user interrupts at a log line. -/
def worldAt (hour logs : Int) : World :=
  { clock := ⟨hour * 3600 * Moment.perSecond⟩
    draws := { numbers := [0.5] }
    limits := { logs } }

/-- The hour of each rest, with the number of sleeps before it. -/
def restsOf (m : Member) (w : World) : List (Nat × Nat) :=
  ((liveNoting.noting m).notes w).map fun rest => (rest.clock.hour, rest.sleeps.length)

example : restsOf (restedAt 7) (worldAt 12 13) = [(12, 0), (17, 1)] := by decide +kernel

/-- At night one rest follows another without a sleep between them. -/
theorem rests_at_night_without_sleep :
    restsOf (restedAt 23) (worldAt 23 14) = [(23, 0), (23, 0), (23, 0)] := by
  decide +kernel

end Persona.Lineage.Member
