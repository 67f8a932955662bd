import Persona.Proofs.Lineage.Additions
import Persona.Proofs.World.Abreast

/-!
# Settings that are missing

The values of settings that are missing are written down twice: in the default settings of a member
without a file, and at each place where a setting is looked up. Where both say the same, a member
deploys in the same way whether or not its settings are completed by the default ones. They differ
in one value, which enables deployment in the default settings and disables it where it is looked
up.

Main statement: `Member.completion_immaterial_iff`.
-/

namespace Persona

theorem Fields.get?_append {κ α : Type} [DecidableEq κ] (fs gs : List (κ × α)) (key : κ) :
    get? (fs ++ gs) key = (get? fs key).or (get? gs key) := by
  induction fs with
  | nil => rfl
  | cons f rest ih =>
      rw [List.cons_append, get?_cons, get?_cons, ih]
      split <;> rfl

namespace Lineage

/-! ## Completed settings -/

/-- The entries of the default settings. -/
def defaultEntries : List (String × Json) :=
  match defaultSettings with
  | .obj fields => fields
  | _ => []

/-- Entries completed by those of the default settings whose keys are missing. -/
def completed (fields : List (String × Json)) : List (String × Json) :=
  fields ++ defaultEntries.filter fun f => (Fields.get? fields f.1).isNone

/-- Without entries, the default ones are left. -/
theorem completed_nil : Json.obj (completed []) = defaultSettings := rfl

theorem get?_completed (fields : List (String × Json)) (key : String) :
    Fields.get? (completed fields) key =
      (Fields.get? fields key).or (Fields.get? defaultEntries key) := by
  have hfilter (gs : List (String × Json)) (hmissing : Fields.get? fields key = none) :
      Fields.get? (gs.filter fun f => (Fields.get? fields f.1).isNone) key =
        Fields.get? gs key := by
    induction gs with
    | nil => rfl
    | cons g gs ih =>
        obtain ⟨k, v⟩ := g
        by_cases hk : k = key
        · subst hk
          rw [List.filter_cons_of_pos (by rw [hmissing]; rfl), Fields.get?_cons, if_pos rfl,
            Fields.get?_cons, if_pos rfl]
        · rw [List.filter_cons, Fields.get?_cons, if_neg hk, ← ih]
          split
          · rw [Fields.get?_cons, if_neg hk]
          · rfl
  rw [completed, Fields.get?_append]
  cases hfield : Fields.get? fields key with
  | some v => rfl
  | none => rw [Option.none_or, Option.none_or, hfilter _ hfield]

/-- In completed settings, the default value is found before the one of the place where it is
looked up. -/
theorem entry_completed (fields : List (String × Json)) (key : String) (fallback : Json) :
    entry (completed fields) key fallback =
      entry fields key (entry defaultEntries key fallback) := by
  rw [entry, get?_completed, Option.getD_or]
  rfl

theorem childCount_completed (fields : List (String × Json)) (generation : Json) :
    childCount (.obj (completed fields)) generation = childCount (.obj fields) generation := by
  have hmost : (Json.obj (completed fields)).fieldOr "max_children_per_generation" (.int 2) =
      (Json.obj fields).fieldOr "max_children_per_generation" (.int 2) :=
    congrArg Except.ok (entry_completed fields "max_children_per_generation" (.int 2))
  rw [childCount, hmost, childCount]

namespace Member

open ActOn (Abreast Ends)

variable {m : Member} {w : World} {fields : List (String × Json)}

/-! ## Deploying with and without completed settings -/

/-- A member, and the same one with completed settings. -/
def Completes (fields : List (String × Json)) (m m' : Member) : Prop :=
  m.settings = .obj fields ∧ m' = { m with settings := .obj (completed fields) }

theorem abreast_prepareChild (generation index : Json) :
    Abreast (Completes fields) (prepareChild generation index) (prepareChild generation index) := by
  refine .get_bind fun m m' hm => .bind (.lift (Act.abreast_makeFolder _)) fun _ => ?_
  refine .bind (.lift (Act.abreast_writeFile _ (Json.halves?_encodeIndented _)
    (Json.halves?_encodeIndented _))) fun _ => ?_
  exact .bind (.lift Act.abreast_now) fun _ => .bind (.lift (Act.abreast_log _ _)) fun _ => .pure _

theorem abreast_raiseChild (generation count : Json) (index : Nat) :
    Abreast (Completes fields) (raiseChild generation count index)
      (raiseChild generation count index) := by
  refine .recover (.bind (abreast_prepareChild _ _) fun id => .bind (.modify ?_) fun _ =>
    .lift (Act.abreast_log _ _)) fun f => .lift (Act.abreast_log _ _)
  rintro m _ ⟨hm, rfl⟩
  exact ⟨hm, rfl⟩

theorem abreast_raiseChildren (generation count : Json) (left index : Nat) :
    Abreast (Completes fields) (raiseChildren generation count left index)
      (raiseChildren generation count left index) := by
  induction left generalizing index with
  | zero =>
      rw [raiseChildren]
      exact .pure ()
  | succ left ih =>
      rw [raiseChildren]
      exact .bind (abreast_raiseChild generation count index) fun _ => ih (index + 1)

theorem abreast_raise : Abreast (Completes fields) raise raise := by
  refine .get_bind fun m m' hm => ?_
  obtain ⟨hsettings, rfl⟩ := hm
  rw [hsettings, childCount_completed]
  refine .bind (.lift (Act.abreast_ofExcept _)) fun next => ?_
  refine .bind (.lift (Act.abreast_ofExcept _)) fun count => ?_
  refine .bind (.lift (Act.abreast_shown _)) fun nextText => ?_
  refine .bind (.lift (Act.abreast_log _ _)) fun _ => ?_
  have hend : Abreast (Completes fields)
      (do let m : Member ← get; return !m.children.isEmpty : Life Bool)
      (do let m : Member ← get; return !m.children.isEmpty) := by
    refine .get_bind fun m m' hm => ?_
    obtain ⟨-, rfl⟩ := hm
    exact .pure _
  cases count.whole? with
  | some n => exact .bind (abreast_raiseChildren _ _ _ _) fun _ => hend
  | none => exact .bind (.throw _) fun _ => hend

/-- A refusal is the same whatever its reason, but for what is logged. -/
theorem refusal_result (message : String) (m : Member) (w : World) :
    ((do info message; return false : Life Bool) m w).1 =
      (if w.logged + 1 == w.limits.logs then .error .interrupted else .ok false, m) := by
  have hlog : info message m w = ((if w.logged + 1 == w.limits.logs then .error .interrupted
      else .ok (), m), w.logging .info message) := ActOn.lift_of_eq (Act.log_apply .info message w)
  cases hlast : w.logged + 1 == w.limits.logs with
  | true =>
      rw [hlast, if_pos rfl] at hlog
      rw [ActOn.bind_of_error hlog, if_pos rfl]
  | false =>
      rw [hlast, if_neg Bool.false_ne_true] at hlog
      rw [ActOn.bind_of_ok hlog, if_neg Bool.false_ne_true]
      rfl

theorem abreast_refusal (message : String) : Abreast (Completes fields)
    (do info message; return false : Life Bool) (do info message; return false) :=
  .bind (.lift (Act.abreast_log .info message)) fun _ => .pure false

theorem entry_completed_generations (fields : List (String × Json)) :
    entry (completed fields) "max_generations" (.int 3) = entry fields "max_generations" (.int 3) :=
  entry_completed fields "max_generations" (.int 3)

/-- If the settings say whether deployment is enabled, completing them changes nothing but what is
handed on. -/
theorem abreast_deploy (hpresent : (Fields.get? fields "recursive_deploy").isSome = true) :
    Abreast (Completes fields) deploy deploy := by
  rintro m _ w w' ⟨hsettings, rfl⟩ hw
  have hsame : entry (completed fields) "recursive_deploy" (.bool false) =
      entry fields "recursive_deploy" (.bool false) := by
    obtain ⟨v, hv⟩ := Option.isSome_iff_exists.mp hpresent
    rw [entry_completed]
    simp only [entry, hv, Option.getD_some]
  have hmost := entry_completed_generations fields
  cases henabled : (entry fields "recursive_deploy" (.bool false)).truthy with
  | false =>
      rw [deploy_of_disabled hsettings henabled, deploy_of_disabled rfl (hsame ▸ henabled)]
      exact abreast_refusal _ m _ w w' ⟨hsettings, rfl⟩ hw
  | true =>
      cases hcompares : Json.compares .atLeast m.generation
          (entry fields "max_generations" (.int 3)) with
      | error e =>
          rw [deploy_of_incomparable hsettings henabled hcompares,
            deploy_of_incomparable rfl (hsame ▸ henabled) (hmost ▸ hcompares)]
          exact ⟨rfl, ⟨hsettings, rfl⟩, hw⟩
      | ok reached =>
          cases reached with
          | true =>
              rw [deploy_of_reached hsettings henabled hcompares,
                deploy_of_reached rfl (hsame ▸ henabled) (hmost ▸ hcompares), hmost]
              exact abreast_refusal _ m _ w w' ⟨hsettings, rfl⟩ hw
          | false =>
              rw [deploy_of_below hsettings henabled hcompares,
                deploy_of_below rfl (hsame ▸ henabled) (hmost ▸ hcompares)]
              exact abreast_raise m _ w w' ⟨hsettings, rfl⟩ hw

/-! ## The setting on which the defaults differ -/

/-- Raising a generation is answered with yes if there were children before. -/
theorem raise_of_children (h : m.children ≠ []) :
    Ends raise m w (fun answer _ _ => answer = true) fun _ _ _ => True := by
  unfold raise
  refine .step (ActOn.get_apply m w) (.bind (.lift (fun next w₁ => ?_) fun _ _ => trivial))
  refine .bind (.lift (fun count w₂ => ?_) fun _ _ => trivial)
  refine .bind (.lift (fun nextText w₃ => ?_) fun _ _ => trivial)
  refine .bind (.lift (fun _ w₄ => ?_) fun _ _ => trivial)
  dsimp only
  cases count.whole? with
  | none => exact .bind (.of_error (f := .mismatch (.notACount count.kindName)) rfl trivial)
  | some n =>
      obtain ⟨ids, hids, -⟩ := raiseChildren_adds next count n.toNat 0 m w₄
      have hraised : (raiseChildren next count n.toNat 0 m w₄).1.2.children ≠ [] := by
        rw [hids]
        exact List.append_ne_nil_of_left_ne_nil h ids
      refine .andThen ((Ends.state_iff (P := fun m' => m'.children ≠ [])).mpr hraised |>.mono
        (fun _ _ _ h' => h') fun _ _ _ _ => trivial) fun _ m' w' h' => ?_
      refine .step (ActOn.get_apply m' w') (.of_ok rfl ?_)
      simpa using h'

/-- Whether deployment is enabled, if the settings do not say so: not by themselves, but after they
are completed. -/
theorem truthy_of_missing (h : Fields.get? fields "recursive_deploy" = none) :
    (entry fields "recursive_deploy" (.bool false)).truthy = false ∧
      (entry (completed fields) "recursive_deploy" (.bool false)).truthy = true := by
  rw [entry_completed, entry, entry, h]
  exact ⟨rfl, rfl⟩

/-- Two deployments that come to the same: the same answer or the same fault, and the same
children. -/
def SameOutcome (run run' : (Except Fault Bool × Member) × World) : Prop :=
  run.1.1 = run'.1.1 ∧ run.1.2.children = run'.1.2.children

theorem sameOutcome_of_present (hsettings : m.settings = .obj fields)
    (hpresent : (Fields.get? fields "recursive_deploy").isSome = true) :
    SameOutcome (deploy m w) (deploy { m with settings := .obj (completed fields) } w) := by
  obtain ⟨hanswer, ⟨-, hstate⟩, -⟩ := abreast_deploy hpresent m _ w w ⟨hsettings, rfl⟩ rfl
  exact ⟨hanswer, (congrArg Member.children hstate).symm⟩

/-- Two refusals: the one says that deployment is disabled, the other that the greatest generation
is reached. -/
theorem sameOutcome_of_reached (hsettings : m.settings = .obj fields)
    (hmissing : Fields.get? fields "recursive_deploy" = none)
    (hreached : Json.compares .atLeast m.generation (entry fields "max_generations" (.int 3)) =
      .ok true) :
    SameOutcome (deploy m w) (deploy { m with settings := .obj (completed fields) } w) := by
  have hdisabled := truthy_of_missing hmissing
  rw [deploy_of_disabled hsettings hdisabled.1, deploy_of_reached rfl hdisabled.2
    ((entry_completed_generations fields).symm ▸ hreached)]
  unfold SameOutcome
  rw [refusal_result, refusal_result]
  exact ⟨rfl, rfl⟩

/-- A member with a child from before tells the answers apart: raising more never makes it say no. -/
def elder (generation : Json) (fields : List (String × Json)) : Member :=
  { childless generation (.obj fields) with children := ["elder"] }

theorem not_sameOutcome_elder {generation : Json}
    (hmissing : Fields.get? fields "recursive_deploy" = none)
    (hbelow : Json.compares .atLeast generation (entry fields "max_generations" (.int 3)) ≠
      .ok true) :
    ¬ SameOutcome (deploy (elder generation fields) clearing)
      (deploy { elder generation fields with settings := .obj (completed fields) } clearing) := by
  rintro ⟨hanswer, -⟩
  have hdisabled := truthy_of_missing hmissing
  rw [← entry_completed_generations] at hbelow
  rw [deploy_of_disabled rfl hdisabled.1, refusal_result] at hanswer
  cases hcompares : Json.compares .atLeast generation
      (entry (completed fields) "max_generations" (.int 3)) with
  | error e =>
      rw [deploy_of_incomparable rfl hdisabled.2 hcompares] at hanswer
      cases hanswer
  | ok reached =>
      obtain rfl : reached = false := by
        cases reached with
        | true => exact absurd hcompares hbelow
        | false => rfl
      rw [deploy_of_below rfl hdisabled.2 hcompares] at hanswer
      have hyes := raise_of_children (w := clearing)
        (m := { elder generation fields with settings := .obj (completed fields) })
        (List.cons_ne_nil _ _)
      rcases hyes.cases with ⟨answer, m', w', hrun, rfl⟩ | ⟨f, m', w', hrun, -⟩ <;>
        rw [hrun] at hanswer <;> cases hanswer

/-- Completing its settings by the default ones makes no difference to what comes of a member's
deployment exactly if the settings say whether deployment is enabled, or the member has reached the
greatest generation. If they say so, everything else is the same too: the lines that are logged, and
the files but for the settings that are handed on. -/
theorem completion_immaterial_iff (fields : List (String × Json)) (generation : Json) :
    ((∀ (m : Member) (w : World), m.generation = generation → m.settings = .obj fields →
        SameOutcome (deploy m w) (deploy { m with settings := .obj (completed fields) } w)) ↔
      (Fields.get? fields "recursive_deploy").isSome = true ∨
        Json.compares .atLeast generation (entry fields "max_generations" (.int 3)) = .ok true) ∧
    ((Fields.get? fields "recursive_deploy").isSome = true →
      Abreast (Completes fields) deploy deploy) := by
  refine ⟨⟨fun hsame => ?_, fun hcase m w hg hsettings => ?_⟩, abreast_deploy⟩
  · by_contra hnot
    rw [not_or, Bool.not_eq_true, Option.isSome_eq_false_iff, Option.isNone_iff_eq_none] at hnot
    exact not_sameOutcome_elder hnot.1 hnot.2 (hsame (elder generation fields) clearing rfl rfl)
  · by_cases hpresent : (Fields.get? fields "recursive_deploy").isSome = true
    · exact sameOutcome_of_present hsettings hpresent
    · have hreached := hcase.resolve_left hpresent
      rw [Bool.not_eq_true, Option.isSome_eq_false_iff, Option.isNone_iff_eq_none] at hpresent
      exact sameOutcome_of_reached hsettings hpresent (hg ▸ hreached)

/-- A founder without settings has no children, and two with completed settings. -/
theorem completion_material :
    let founder := childless (.int 0) (.obj [])
    let complete := { founder with settings := defaultSettings }
    (deploy founder clearing).1.1.toOption = some false ∧
      (deploy founder clearing).1.2.children = [] ∧
      Json.obj (completed []) = defaultSettings ∧
      (deploy complete clearing).1.1.toOption = some true ∧
      (deploy complete clearing).1.2.children = ["PHI-1-0-0", "PHI-1-1-0"] := by
  intro founder complete
  obtain ⟨hno, hnone, hyes, htwo⟩ : (deploy founder clearing).1.1.toOption = some false ∧
      (deploy founder clearing).1.2.children = [] ∧
      (deploy complete clearing).1.1.toOption = some true ∧
      (deploy complete clearing).1.2.children = ["PHI-1-0-0", "PHI-1-1-0"] := by decide +kernel
  exact ⟨hno, hnone, completed_nil, hyes, htwo⟩

end Member

end Lineage

end Persona
