import Persona.Lineage.Life
import Persona.Proofs.Psyche.Inward

/-!
# A member keeps to itself

Except for the children it prepares and the seed it lets evolve, a member acts inwardly and sleeps.

Main statements: `cycle_secluded`, `deploy_leads`.
-/

namespace Persona.Lineage.Member

open World (Wakeful)

/-! ## Inward activities -/

theorem info_inward (message : String) : (info message).Inward := .lift (.log _ _)

theorem error_inward (message : String) : (error message).Inward := .lift (.log _ _)

theorem now_inward : now.Inward := .lift .now

theorem chance_inward {α : Type} (c : Chance α) : (chance c).Inward := .lift (.chance c)

theorem childrenCount_inward : childrenCount.Inward := .bind .get fun _ => .pure _

theorem setting_inward (key : String) (fallback : Json) : (setting key fallback).Inward :=
  .bind .get fun _ => .lift (.look _)

theorem feel_inward (e : Psyche.Emotion) (intensity : Float) : (feel e intensity).Inward :=
  .bind now_inward fun _ => .modify _

theorem speak_inward (psyche : Psyche) (topic : Psyche.Topic) : (speak psyche topic).Inward :=
  .bind (.within (Psyche.speak_inward topic)) fun _ => info_inward _

theorem examine_inward : examine.Inward := by
  refine .bind .get fun m => .bind now_inward fun _ => ?_
  cases m.psyche with
  | none => exact .bind (info_inward _) fun _ => .pure _
  | some psyche =>
      exact .bind (.within (.bind Psyche.heartbeat_inward fun _ => .get)) fun _ =>
        .bind (speak_inward _ _) fun _ => .pure _

theorem wonder_inward (psyche : Psyche) : (wonder psyche).Inward := by
  refine .bind now_inward fun _ => .bind (chance_inward _) fun _ => .ite ?_ (.pure _)
  have hexplore := Psyche.Curiosity.explore_inward
  refine .bind (.within (.bind (.within hexplore) fun _ => .bind .get fun _ => .pure _)) fun _ => ?_
  refine .ite ?_ (.pure _)
  exact .bind (info_inward _) fun _ => .within (.bind (.modify _) fun _ => .get)

theorem ponder_inward (psyche : Psyche) : (ponder psyche).Inward := by
  refine .bind now_inward fun time => .bind (chance_inward _) fun _ => .ite ?_ (.pure _)
  refine .bind (.within (.set _)) fun _ => ?_
  split
  · exact info_inward _
  · exact .pure _

theorem endEvolution_inward (f : Fault) : (endEvolution f).Inward := by
  unfold endEvolution
  split
  · exact .bind (error_inward _) fun _ => .bind (feel_inward _ _) fun _ => .bind now_inward fun _ =>
      .modify _
  · exact error_inward _

theorem introduce_inward : introduce.Inward := by
  refine .bind .get fun m => .bind (info_inward _) fun _ => .bind (info_inward _) fun _ => ?_
  have hrest : ActOn.Inward (do
      info ("Unleashed: " ++ unleashed)
      info ("Generation: " ++ m.generation.text)
      info rule) :=
    .bind (info_inward _) fun _ => .bind (info_inward _) fun _ => info_inward _
  cases m.psyche with
  | none => exact hrest
  | some psyche => exact .bind (info_inward _) fun _ => hrest

theorem celebrate_inward : celebrate.Inward := by
  refine .bind .get fun m => ?_
  have hcount := childrenCount_inward
  cases m.psyche with
  | none => exact .bind hcount fun _ => info_inward _
  | some psyche => exact .bind now_inward fun _ => .bind hcount fun _ => speak_inward _ _

theorem shutdown_inward : shutdown.Inward := by
  refine .bind .get fun m => ?_
  have hrest (awakened : Bool) : ActOn.Inward (do
      info ("Φ-DAEMON " ++ m.id ++ " shutting down...")
      info ("Final status: Generation " ++ m.generation.text ++ ", " ++ (← childrenCount) ++
        " children spawned")
      if awakened then
        feel .peaceful 0.5
        info "Going to sleep now. Goodnight."
      info "Shutdown complete") := by
    refine .bind (info_inward _) fun _ => .bind childrenCount_inward fun _ =>
      .bind (info_inward _) fun _ => .ite ?_ (info_inward _)
    exact .bind (feel_inward _ _) fun _ => .bind (info_inward _) fun _ => info_inward _
  cases m.psyche with
  | none => exact hrest false
  | some psyche =>
      exact .bind (.lift (.bind .now fun _ => .ofExcept _)) fun _ => .bind (info_inward _) fun _ =>
        hrest true

/-- What ends the work, by the fault. -/
theorem endOfWork_inward (f : Fault) : ActOn.Inward (match f with
    | .interrupted => do
      info "Shutdown signal received"
      shutdown
    | f => throw f) := by
  split
  · exact .bind (info_inward _) fun _ => shutdown_inward
  · exact .throw _

/-! ## Children -/

theorem prepareChild_leads (generation index : Json) :
    (prepareChild generation index).Leads Wakeful :=
  .bind .get fun _ => .bind (.lift (Act.leads_makeFolder _)) fun _ =>
    .bind (.lift (Act.leads_writeFile _ _)) fun _ => .bind now_inward.leads fun _ =>
      .bind (info_inward _).leads fun _ => .pure _

theorem raiseChild_leads (generation count : Json) (index : Nat) :
    (raiseChild generation count index).Leads Wakeful := by
  refine .recover ?_ fun f => (error_inward _).leads
  exact .bind (prepareChild_leads _ _) fun _ => .bind (.modify _) fun _ => (info_inward _).leads

theorem raiseChildren_leads (generation count : Json) (left index : Nat) :
    (raiseChildren generation count left index).Leads Wakeful := by
  induction left generalizing index with
  | zero => exact .pure _
  | succ left ih => exact .bind (raiseChild_leads _ _ _) fun _ => ih _

theorem deploy_leads : deploy.Leads Wakeful := by
  have hrefuse (message : String) : ActOn.Leads Wakeful (do info message; return false) :=
    .bind (info_inward _).leads fun _ => .pure _
  refine .bind (setting_inward _ _).leads fun _ => .ite ?_ (hrefuse _)
  refine .bind (setting_inward _ _).leads fun _ => .bind .get fun m => ?_
  refine .bind (.lift (.look _)) fun _ => .ite (hrefuse _) ?_
  refine .bind (.lift (.ofExcept _)) fun next => .bind (.lift (.ofExcept _)) fun count => ?_
  refine .bind (.lift (Act.Inward.shown _).leads) fun _ => .bind (info_inward _).leads fun _ => ?_
  cases count.whole? with
  | none => exact .bind (.throw _) fun _ => .bind .get fun _ => .pure _
  | some n => exact .bind (raiseChildren_leads _ _ _ _) fun _ => .bind .get fun _ => .pure _

/-! ## Cycles -/

theorem wait_secluded : wait.Secluded := by
  refine .bind (.inward (setting_inward _ _)) fun base => .bind (.inward .get) fun m => ?_
  cases m.psyche with
  | none => exact .bind (.inward (.pure _)) fun _ => .sleepFor _
  | some psyche =>
      exact .bind (.inward (.lift (.bind (psyche.vary_inward base) fun _ => .pure _))) fun _ =>
        .sleepFor _

/-- What follows the examination. -/
theorem afterExamination_secluded : ActOn.Secluded (do
    let m : Member ← get
    if m.psyche.isNone then
      info ("Active - Generation: " ++ m.generation.text ++ ", Children: " ++ (← childrenCount))
    wait) := by
  refine .bind (.inward .get) fun m => .ite ?_ wait_secluded
  exact .bind (.inward childrenCount_inward) fun _ => .bind (.inward (info_inward _)) fun _ =>
    wait_secluded

theorem attend_secluded : attend.Secluded :=
  .bind (.inward (.bind examine_inward fun _ => .pure _)) fun _ => afterExamination_secluded

theorem takeRest_inward (psyche : Psyche) (time : Moment) : ActOn.Inward (do
    info (← (Act.look (psyche.rest.status time) : Act String))
    info "Taking a rest cycle..."
    withPsyche psyche (Psyche.withRest (Psyche.Rest.take time))) :=
  .bind (.lift (.look _)) fun _ => .bind (info_inward _) fun _ => .bind (info_inward _) fun _ =>
    .within (.within (Psyche.Rest.take_inward time))

theorem cycle_secluded : cycle.Secluded := by
  refine .bind (.inward .get) fun m => ?_
  cases m.psyche with
  | none => exact attend_secluded
  | some psyche =>
      refine .bind (.inward now_inward) fun time => ?_
      refine .bind (.inward (.within (.bind Psyche.heartbeat_inward fun _ => .get)))
        fun psyche => ?_
      refine .bind (.inward (.lift (.look _))) fun _ => .ite (.inward (takeRest_inward _ _)) ?_
      exact .bind (.inward (wonder_inward psyche)) fun _ => .bind (.inward (ponder_inward _))
        fun _ => attend_secluded

end Persona.Lineage.Member
