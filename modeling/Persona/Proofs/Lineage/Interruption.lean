import Persona.Proofs.Lineage.Halting
import Persona.Proofs.Psyche.Journal
import Persona.Proofs.World.Interruption

/-!
# Interrupted lives

A member that is interrupted in a sleep at work shuts down and returns. The founder also sleeps
before its work begins, and an interruption of one of those sleeps ends its life on the spot.

Main statement: `interrupted_sleep_outcome`.
-/

namespace Persona.Lineage.Member

open ActOn (Ends Heeds HeedsAt Steady)
open World (Awake Later)

variable {m : Member} {w : World}

/-! ## Before the work -/

theorem inward_leads_awake {α : Type} {x : Life α} (h : x.Inward) : x.Leads Awake :=
  h.leads.mono fun _ _ => Awake.of_wakeful

theorem deploy_leads_awake : deploy.Leads Awake := deploy_leads.mono fun _ _ => Awake.of_wakeful

theorem evolveOnce_leads : evolveOnce.Leads Awake := by
  refine .tryCatch ?_ fun f => ?_
  · exact .bind (.lift (Act.leads_execute _)) fun _ =>
      .bind (inward_leads_awake (info_inward _)) fun _ => .pure _
  · split
    · exact .pure _
    · exact .pure _
    · exact .throw _

theorem evolve_heeds (rounds : Nat) : Heeds (fun _ w => w.JustSlept) (evolve rounds) := by
  have hlook : (Act.existsWritten "kill.switch").Leads Awake := fun w => by
    rw [Act.existsWritten_killSwitch]
    exact refl w
  induction rounds with
  | zero => exact .of_inward (.throw _)
  | succ rounds ih =>
      refine .bind (.of_leads (.lift hlook)) fun halted => .ite (.of_inward (.pure _)) ?_
      refine .bind (.of_leads evolveOnce_leads) fun next => ?_
      cases next with
      | some f => exact .of_inward (endEvolution_inward f)
      | none => exact .bind (ActOn.Secluded.sleepFor _).heeds fun _ => ih

theorem prepare_heeds : Heeds (fun _ w => w.JustSlept) prepare := by
  have hinfo (message : String) : Heeds (fun _ w => w.JustSlept) (info message) :=
    .of_inward (info_inward message)
  refine .bind (.of_inward introduce_inward) fun _ => .bind (.of_inward .get) fun m => ?_
  have hend (deployed : Bool) : Heeds (fun _ w => w.JustSlept) (do
      if deployed then celebrate
      info "Entering operational mode...") := by
    cases deployed with
    | false => exact hinfo _
    | true => exact .bind (.of_inward celebrate_inward) fun _ => hinfo _
  cases hfounder : m.generation.same (.int 0) with
  | false => exact .bind (.of_leads deploy_leads_awake) hend
  | true =>
      refine .bind beginFounding_secluded.heeds fun _ => .bind (.of_leads deploy_leads_awake) ?_
      intro deployed
      refine .bind (.bind (hinfo _) fun _ => .bind (.of_leads (.lift fun w => refl w)) fun _ => ?_)
        fun _ => hend deployed
      exact .bind (evolve_heeds _) fun _ => hinfo _

theorem introduce_steady : introduce.Steady := by
  refine .bind .get fun m => .bind (.lift _) fun _ => .bind (.lift _) fun _ => ?_
  have hrest : ActOn.Steady (do
      info ("Unleashed: " ++ unleashed)
      info ("Generation: " ++ m.generation.text)
      info rule) := .bind (.lift _) fun _ => .bind (.lift _) fun _ => .lift _
  cases m.psyche with
  | none => exact hrest
  | some psyche => exact .bind (.lift _) fun _ => hrest

/-- Only the founder sleeps before its work. -/
theorem prepare_awake (hm : m.generation.same (.int 0) = false) (w : World) :
    Awake w (prepare m w).2 := by
  have hstate := introduce_steady m w
  have hawake := inward_leads_awake introduce_inward m w
  have hrest : ActOn.Leads Awake (do
      let deployed ← deploy
      if deployed then celebrate
      info "Entering operational mode...") := by
    refine .bind deploy_leads_awake fun _ => inward_leads_awake (.ite ?_ (info_inward _))
    exact .bind celebrate_inward fun _ => info_inward _
  rcases hrun : introduce m w with ⟨⟨r, m'⟩, w'⟩
  rw [hrun] at hstate hawake
  obtain rfl : m' = m := hstate
  cases r with
  | error f => rwa [prepare, ActOn.bind_of_error hrun]
  | ok _ =>
      rw [prepare, ActOn.bind_of_ok hrun, ActOn.bind_of_ok (ActOn.get_apply m' w'), hm]
      exact IsTrans.trans _ _ _ hawake (hrest m' w')

/-! ## At work -/

/-- A member that can write its journal, if it has a psyche. -/
def Presentable (m : Member) : Prop := ∀ psyche, m.psyche = some psyche → psyche.Settled

/-- Speaking of its status changes nothing about a psyche. -/
theorem speak_status_ends (psyche : Psyche) (uptime children : Json) (m : Member) (w : World) :
    Ends (speak psyche (.status uptime children)) m w (fun _ m' _ => m'.psyche = some psyche)
      fun _ _ _ => True := by
  have hsteady : ActOn.Steady (Psyche.speak (.status uptime children)) :=
    .bind (.lift _) fun _ => .bind .get fun _ => .lift _
  have hspeak := (Ends.state_iff (P := fun psyche' => psyche' = psyche)).mpr (hsteady psyche w)
  have hwithin : Ends (withPsyche psyche (Psyche.speak (.status uptime children))) m w
      (fun _ m' _ => m'.psyche = some psyche) fun _ _ _ => True :=
    .within (hspeak.mono (fun _ _ _ h => congrArg some h) fun _ _ _ _ => trivial)
  exact .andThen hwithin fun _ m' _ h => .lift (fun _ _ => h) fun _ _ => trivial

theorem examine_ends (m : Member) (w : World) :
    Ends examine m w (fun _ m' _ => m'.Presentable) fun _ _ _ => True := by
  refine .step rfl (.step rfl ?_)
  dsimp only
  cases hm : m.psyche with
  | none =>
      have hnone : m.Presentable := fun psyche hsome => nomatch hm.symm.trans hsome
      exact .bind (.lift (fun _ _ => hnone) fun _ _ => trivial)
  | some psyche =>
      have hbeat : Ends (withPsyche psyche (do Psyche.heartbeat; get)) m w
          (fun psyche' _ _ => psyche'.Settled) fun _ _ _ => True :=
        .within (.andThen (psyche.heartbeat_settles w) fun _ _ _ h => h)
      refine .andThen hbeat fun psyche' m' w' hsettled => ?_
      refine .andThen (speak_status_ends psyche' _ _ m' w') fun _ m'' _ hm'' => ?_
      intro psyche'' hsome
      exact Option.some.inj (hm''.symm.trans hsome) ▸ hsettled

theorem wait_steady : wait.Steady := by
  refine .bind (.bind .get fun _ => .lift _) fun base => .bind .get fun m => ?_
  cases m.psyche with
  | none => exact .bind (.pure _) fun _ => .lift _
  | some psyche => exact .bind (.lift _) fun _ => .lift _

theorem afterExamination_steady : ActOn.Steady (do
    let m : Member ← get
    if m.psyche.isNone then
      info ("Active - Generation: " ++ m.generation.text ++ ", Children: " ++ (← childrenCount))
    wait) := by
  refine .bind .get fun m => .ite ?_ wait_steady
  exact .bind (.bind .get fun _ => .pure _) fun _ => .bind (.lift _) fun _ => wait_steady

theorem attend_heeds : Heeds (fun m w => w.JustSlept ∧ m.Presentable) attend := by
  intro m w
  have hexamine : ActOn.Inward (discard examine) := .bind examine_inward fun _ => .pure _
  refine .bind (Q := fun _ m' _ => m'.Presentable) (.of_inward hexamine) ?_ ?_
  · exact .andThen (examine_ends m w) fun _ _ _ h => h
  · intro _ m' w' hm'
    exact (afterExamination_secluded.heeds m' w').steady afterExamination_steady hm'

theorem cycle_heeds : Heeds (fun m w => w.JustSlept ∧ m.Presentable) cycle := by
  refine .bind (.of_inward .get) fun m => ?_
  cases m.psyche with
  | none => exact attend_heeds
  | some psyche =>
      refine .bind (.of_inward now_inward) fun time => ?_
      refine .bind (.of_inward (.within (.bind Psyche.heartbeat_inward fun _ => .get)))
        fun psyche => ?_
      refine .bind (.of_inward (.lift (.look _))) fun _ =>
        .ite (.of_inward (takeRest_inward _ _)) ?_
      exact .bind (.of_inward (wonder_inward psyche)) fun _ =>
        .bind (.of_inward (ponder_inward _)) fun _ => attend_heeds

/-! ## Shutting down -/

/-- The lines with which a member says farewell, with a psyche or without one. -/
def farewell (m : Member) (awakened : Bool) : List String :=
  ["Φ-DAEMON " ++ m.id ++ " shutting down...",
    "Final status: Generation " ++ m.generation.text ++ ", " ++ Number.natText m.children.length ++
      " children spawned"] ++
  (if awakened then ["Going to sleep now. Goodnight."] else []) ++ ["Shutdown complete"]

/-- What a member logs when it shuts down at a moment. -/
def lastWords (m : Member) (now : Moment) : List String :=
  match m.psyche with
  | some psyche =>
    ["Shutdown signal received"] ++ (psyche.journal now).toOption.toList ++ m.farewell true
  | none => ["Shutdown signal received"] ++ m.farewell false

theorem farewell_ends (m : Member) (w : World) (said : List String) (awakened : Bool) :
    Ends (do
        info ("Φ-DAEMON " ++ m.id ++ " shutting down...")
        info ("Final status: Generation " ++ m.generation.text ++ ", " ++ (← childrenCount) ++
          " children spawned")
        if awakened then
          feel .peaceful 0.5
          info "Going to sleep now. Goodnight."
        info "Shutdown complete") m (w.saying said)
      (fun _ _ w' => w' = w.saying (said ++ m.farewell awakened)) fun _ _ w' => w.Cut w' := by
  have hlog (lines : List String) (line : String) (m' : Member) := ActOn.log_ends w lines line m'
  refine .andThen (hlog said _ m) ?_
  rintro _ _ _ ⟨rfl, rfl⟩
  refine .step rfl (.andThen (hlog _ _ _) ?_)
  rintro _ _ _ ⟨rfl, rfl⟩
  cases awakened with
  | false => exact (hlog _ _ _).mono (fun _ _ _ h => by simpa [farewell] using h.2) fun _ _ _ h => h
  | true =>
      refine .step rfl (.andThen (hlog _ _ _) ?_)
      rintro _ _ _ ⟨rfl, rfl⟩
      exact (hlog _ _ _).mono (fun _ _ _ h => by simpa [farewell] using h.2) fun _ _ _ h => h

theorem shutdown_ends (hm : m.Presentable) (w : World) :
    Ends (do info "Shutdown signal received"; shutdown) m w
      (fun _ _ w' => w' = w.saying (m.lastWords w.clock)) fun _ _ w' => w.Cut w' := by
  refine .andThen (ActOn.log_ends w [] "Shutdown signal received" m) ?_
  rintro _ m w' ⟨rfl, rfl⟩
  refine .step rfl ?_
  cases hpsyche : m.psyche with
  | none =>
      rw [lastWords, hpsyche]
      exact farewell_ends m w _ false
  | some psyche =>
      obtain ⟨journal, hjournal⟩ := (hm psyche hpsyche).journal w.clock
      have hwrite : (do MonadExcept.ofExcept (psyche.journal (← Act.now)) : Act String)
          (w.saying ["Shutdown signal received"]) =
            (.ok journal, w.saying ["Shutdown signal received"]) := by
        have hnow (w : World) : Act.now w = (.ok w.clock, w) := rfl
        rw [Act.bind_of_ok (hnow _), World.clock_saying, hjournal]
        rfl
      have hwords : m.lastWords w.clock =
          ["Shutdown signal received"] ++ [journal] ++ m.farewell true := by
        simp only [lastWords, hpsyche, hjournal, Except.toOption, Option.toList_some]
      rw [hwords]
      refine .step (ActOn.lift_of_eq hwrite) (.andThen (ActOn.log_ends w _ journal m) ?_)
      rintro _ m w' ⟨rfl, rfl⟩
      exact farewell_ends m w _ true

/-! ## Whole lives -/

/-- A life from one world to another was interrupted in a sleep, and the member shut down. -/
def ShutDown (w w' : World) : Prop :=
  ∃ m₁ w₁, w.Roused w₁ ∧ w₁.JustSlept ∧
    w'.trace = w₁.trace ++ (lastWords m₁ w₁.clock).map (Event.log .info)

theorem ShutDown.before {w w₁ w' : World} (hlater : Later w w₁) (h : ShutDown w₁ w') :
    ShutDown w w' := by
  obtain ⟨m₂, w₂, hroused, hrest⟩ := h
  exact ⟨m₂, w₂, hroused.before hlater, hrest⟩

theorem work_leads : work.Leads Later := by
  refine .bind (.lift fun w => refl w) fun _ => .bind (.lift fun w => refl w) fun _ => ?_
  refine .tryCatch (cycle_heeds.forever _).leads fun f => ?_
  exact (inward_leads_awake (endOfWork_inward f)).mono fun _ _ h => h.1

theorem interruptedWork_ends (m : Member) (w : World) :
    Ends work m w (fun _ _ w' => w.Roused w' → ShutDown w w')
      fun _ _ w' => w.Roused w' → w.Cut w' := by
  refine .step rfl (.step rfl (.tryCatch ((cycle_heeds.forever _ m w).mono ?_ fun _ _ _ h => h) ?_))
  · exact fun _ _ _ h hroused => absurd hroused h.2
  · intro f m₁ w₁ ⟨hlater, hheeds⟩
    by_cases hroused : w.Roused w₁
    · obtain ⟨rfl, hslept, hm₁⟩ := hheeds hroused
      refine (shutdown_ends hm₁ w₁).mono (fun _ _ w' hw' _ => ?_) fun _ _ w' hcut _ => ?_
      · exact ⟨m₁, w₁, hroused, hslept, hw' ▸ w₁.trace_saying _⟩
      · exact hcut.before hlater
    · -- Nobody sleeps any more, so no sleep was interrupted at all.
      have hnever {w' : World} (hawake : Awake w₁ w') : ¬ w.Roused w' := fun h =>
        ((World.roused_iff hlater hawake.1).mp h).elim hroused hawake.not_roused
      refine (inward_leads_awake (endOfWork_inward f)).ends.mono ?_ ?_
      · exact fun _ _ _ hawake h => absurd h (hnever hawake)
      · exact fun _ _ _ hawake h => absurd h (hnever hawake)

/-- If the user interrupts a sleep, and no log line, the member shuts down and returns in case it
was at work. Else it is a founder that was preparing its work, and its life ends with the sleep. -/
theorem interrupted_sleep_outcome (m : Member) (w : World) (hroused : w.Roused (live m w).2)
    (huncut : ¬ w.Cut (live m w).2) :
    ((prepare m w).1.1 = .ok () ∧ (live m w).1.1 = .ok () ∧ ShutDown w (live m w).2) ∨
      (m.generation.same (.int 0) = true ∧ (prepare m w).1.1 = .error .interrupted ∧
        (live m w).1.1 = .error .interrupted ∧ (live m w).2.JustSlept) := by
  have hprepare := prepare_heeds m w
  rcases hrun : prepare m w with ⟨⟨r, m'⟩, w'⟩
  rw [HeedsAt, Ends, hrun] at hprepare
  cases r with
  | error f =>
      obtain ⟨-, hheeds⟩ := hprepare
      have hlive : live m w = ((.error f, m'), w') := ActOn.bind_of_error hrun
      rw [hlive] at hroused ⊢
      obtain ⟨rfl, hslept⟩ := hheeds hroused
      refine .inr ⟨?_, rfl, rfl, hslept⟩
      by_contra hfounder
      have hawake := prepare_awake (Bool.eq_false_of_not_eq_true hfounder) w
      rw [hrun] at hawake
      exact hawake.not_roused hroused
  | ok _ =>
      obtain ⟨hlater, hunroused⟩ := hprepare
      have hlive : live m w = work m' w' := ActOn.bind_of_ok hrun
      have hwork := interruptedWork_ends m' w'
      have hlater' := work_leads m' w'
      rw [hlive] at hroused huncut ⊢
      have hroused' := ((World.roused_iff hlater hlater').mp hroused).resolve_left hunroused
      rcases hdone : work m' w' with ⟨⟨r, m''⟩, w''⟩
      rw [hdone] at hroused' huncut
      rw [Ends, hdone] at hwork
      cases r with
      | error f => exact absurd ((hwork hroused').before hlater) huncut
      | ok _ => exact .inl ⟨rfl, rfl, (hwork hroused').before hlater⟩

/-- A founder without a psyche that prepares no children. -/
def loneFounder : Member where
  generation := .int 0
  settings := .obj [("recursive_deploy", .bool false), ("deployment_interval", .int 5)]
  id := "lone"
  born := ⟨0⟩
  psyche := none

/-- A world without the virtual machine, in which the user interrupts a sleep. -/
def interruptedAt (sleeps : Int) : World where
  clock := ⟨0⟩
  draws := { numbers := [0.5] }
  commands := [.gives .notInstalled]
  limits := { sleeps }

/-- The second sleep of a founder is at work. -/
theorem interrupted_sleep_outcome_second :
    (interruptedAt 2).Roused (live loneFounder (interruptedAt 2)).2 ∧
      ¬ (interruptedAt 2).Cut (live loneFounder (interruptedAt 2)).2 ∧
      (live loneFounder (interruptedAt 2)).1.1 = .ok () ∧
      ShutDown (interruptedAt 2) (live loneFounder (interruptedAt 2)).2 := by
  have hroused : (interruptedAt 2).Roused (live loneFounder (interruptedAt 2)).2 := by
    decide +kernel
  have huncut : ¬ (interruptedAt 2).Cut (live loneFounder (interruptedAt 2)).2 := by
    decide +kernel
  have hprepare : (prepare loneFounder (interruptedAt 2)).1.1 = .ok () := rfl
  have houtcome := interrupted_sleep_outcome loneFounder (interruptedAt 2) hroused huncut
  have hatWork := houtcome.resolve_right fun h => nomatch hprepare.symm.trans h.2.1
  exact ⟨hroused, huncut, hatWork.2⟩

/-- Its first sleep is not: an interruption ends the life there, with no farewell. -/
theorem first_sleep_without_farewell :
    (interruptedAt 1).Roused (live loneFounder (interruptedAt 1)).2 ∧
      ¬ (interruptedAt 1).Cut (live loneFounder (interruptedAt 1)).2 ∧
      (live loneFounder (interruptedAt 1)).1.1 = .error .interrupted ∧
      (live loneFounder (interruptedAt 1)).2.trace.getLast? = some (.sleep (.int 1)) :=
  ⟨by decide +kernel, by decide +kernel, rfl, rfl⟩

end Persona.Lineage.Member
