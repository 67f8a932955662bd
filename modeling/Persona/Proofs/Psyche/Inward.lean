import Persona.Proofs.World.Inward
import Persona.Psyche.Basic

/-!
# The psyche acts inwardly

What a psyche does, it does with itself. Only a look around the workspace sees files, and there the
kill switch never shows: its name has none of the endings that are worth a look.

Main statements: `Curiosity.blind_findings`, `heartbeat_inward`.
-/

namespace Persona

/-! ## Paths past the kill switch -/

namespace Files

theorem isFolder_remove (t : Files) (other place : Place) :
    (t.remove other).isFolder place = t.isFolder place := rfl

theorem text?_remove (t : Files) (other place : Place) :
    (t.remove other).text? place = if other = place then none else t.text? place :=
  Fields.get?_erase t.texts other place

/-- Without a text, a path leads where it led before, unless the text is what ended it. -/
theorem follow_remove (t : Files) (other place : Place) (parts : List String) :
    (t.remove other).follow place parts = t.follow place parts ∨
      (t.remove other).follow place parts = .error .missing ∧
        t.follow place parts = .error .notFolder := by
  induction parts generalizing place with
  | nil => exact .inl rfl
  | cons part rest ih =>
      simp only [follow, isFolder_remove, text?_remove]
      by_cases hfolder : t.isFolder place = true
      · simp only [if_pos hfolder]
        by_cases hlong : nameLimit < byteSize part
        · exact .inl (by simp only [if_pos hlong])
        · simp only [if_neg hlong]
          split
          · exact ih _
          · exact ih _
      · simp only [if_neg hfolder]
        by_cases hother : other = place
        · cases (t.text? place).isSome <;> simp [hother]
        · exact .inl (by simp only [if_neg hother])

theorem locate_remove (t : Files) (other : Place) (p : Path) :
    (t.remove other).locate p = t.locate p ∨
      (t.remove other).locate p = .error .missing ∧ t.locate p = .error .notFolder := by
  unfold locate
  cases checkWritten p.text with
  | error cause => exact .inl rfl
  | ok =>
      have hfollow (place : Place) := follow_remove t other place p.parts
      change (t.remove other).reach p = t.reach p ∨ (t.remove other).reach p = _ ∧ t.reach p = _
      unfold reach
      split
      · exact hfollow _
      · exact hfollow _

/-- A text that is not among those looked for may be missing. -/
theorem filter_places_remove (t : Files) {place : Place} {wanted : Place → Bool}
    (h : wanted place = false) :
    ((t.remove place).texts.map (·.1) ++ t.folders).filter wanted =
      (t.texts.map (·.1) ++ t.folders).filter wanted := by
  have hkeys : (t.remove place).texts.map (·.1) = (t.texts.map (·.1)).filter (· ≠ place) :=
    Fields.keys_erase _ _
  rw [hkeys, List.filter_append, List.filter_append, List.filter_filter]
  congr 1
  refine List.filter_congr fun other _ => ?_
  by_cases hother : other = place <;> simp [hother, h]

/-- The kill switch is not listed under an ending that its name does not have. -/
theorem endingWith_remove (t : Files) (p : Path) {ending : String}
    (h : Text.endsWith "kill.switch" ending = false) :
    (t.remove ["kill.switch"]).endingWith p ending = t.endingWith p ending := by
  have hfolders : (t.remove ["kill.switch"]).folders = t.folders := rfl
  rcases locate_remove t ["kill.switch"] p with hlocate | ⟨hlocate, hthere⟩
  · simp only [endingWith, hlocate, hfolders]
    cases t.locate p with
    | error cause => rfl
    | ok base =>
        dsimp only
        rw [filter_places_remove t (by simp [h])]
  · simp only [endingWith, hlocate, hthere]

theorem endingWith_killSwitch {t : Files} (h : t.NothingBelow) {p : Path}
    (hlocate : t.locate p = .ok ["kill.switch"]) (ending : String) :
    t.endingWith p ending = [] := by
  have hnone (place : Place) (hplace : place ∈ t.texts.map (·.1) ++ t.folders) :
      ¬(["kill.switch"].isPrefixOf place = true ∧ 1 < place.length) := by
    rintro ⟨hbase, hlength⟩
    obtain ⟨below, rfl⟩ := List.isPrefixOf_iff_prefix.mp hbase
    cases below with
    | nil => exact absurd hlength (by decide)
    | cons name below => exact h _ hplace name below rfl
  have hfilter : (t.texts.map (·.1) ++ t.folders).filter (fun place =>
      ["kill.switch"].isPrefixOf place && ["kill.switch"].length < place.length &&
        Text.endsWith (place.getLastD "") ending) = [] := by
    refine List.filter_eq_nil_iff.mpr fun place hplace hall => hnone place hplace ?_
    simp only [Bool.and_eq_true, decide_eq_true_eq] at hall
    exact hall.1
  simp only [endingWith, hlocate, hfilter, List.map_nil, List.mergeSort_nil]

end Files

namespace Psyche

namespace Curiosity

/-! ## A look around -/

/-- What a look around the workspace finds. -/
def findings (c : Curiosity) (t : Files) : Except Files.Cause (List String) := do
  if ← t.exists? c.workspace then return c.candidates t else return []

theorem scan_eq : scan = do
    let c ← get
    match ← (do return c.findings (← get).files : Act (Except Files.Cause (List String))) with
    | .error cause => throw (Act.fileFault cause c.workspace)
    | .ok [] => return .null
    | .ok (first :: rest) =>
      let chosen ← (Act.chance (Chance.pick first rest) : Act String)
      set (← (MonadExcept.ofExcept (c.notice (.str chosen) (.float 0.7)) : Act Curiosity))
      return .str chosen := by
  funext c w
  have hfindings : (do return c.findings (← get).files : Act _) w =
      (.ok (c.findings w.files), w) := rfl
  have hexists : Act.fileExists c.workspace w =
      ((w.files.exists? c.workspace).mapError (Act.fileFault · c.workspace), w) := by
    rw [Act.fileExists, Act.bind_of_ok (Act.get_apply w)]
    cases w.files.exists? c.workspace <;> rfl
  rw [scan, ActOn.bind_of_ok (ActOn.get_apply c w), ActOn.bind_of_ok (ActOn.get_apply c w),
    ActOn.bind_lift_of_ok hfindings]
  cases hthere : w.files.exists? c.workspace with
  | error cause =>
      rw [hthere] at hexists
      have hfound : c.findings w.files = .error cause := by rw [findings, hthere]; rfl
      rw [ActOn.bind_lift_of_error hexists, hfound]
      rfl
  | ok there =>
      rw [hthere] at hexists
      rw [ActOn.bind_lift_of_ok hexists]
      cases there with
      | false =>
          have hfound : c.findings w.files = .ok [] := by rw [findings, hthere]; rfl
          rw [hfound]
          rfl
      | true =>
          have hfound : c.findings w.files = .ok (c.candidates w.files) := by
            rw [findings, hthere]; rfl
          have hfiles : (do return (← get).files : Act Files) w = (.ok w.files, w) := rfl
          rw [if_pos rfl, ActOn.bind_lift_of_ok hfiles, hfound]
          cases c.candidates w.files <;> rfl

theorem candidates_remove (c : Curiosity) (t : Files) :
    c.candidates (t.remove ["kill.switch"]) = c.candidates t := by
  have hendings : endings.all (fun ending => !Text.endsWith "kill.switch" ending) = true := by
    decide
  have hsame (ending : String) (h : ending ∈ endings) :
      (t.remove ["kill.switch"]).endingWith c.workspace ending = t.endingWith c.workspace ending :=
    t.endingWith_remove c.workspace (by simpa using List.all_eq_true.mp hendings ending h)
  unfold candidates
  rw [List.map_congr_left fun ending h => by rw [hsame ending h]]

/-- Below the kill switch nothing is found. -/
theorem candidates_killSwitch (c : Curiosity) {t : Files} (h : t.NothingBelow)
    (hlocate : t.locate c.workspace = .ok ["kill.switch"]) : c.candidates t = [] := by
  simp only [candidates, Files.endingWith_killSwitch h hlocate]
  rfl

theorem findings_remove (c : Curiosity) {t : Files} (h : t.NothingBelow) :
    c.findings (t.remove ["kill.switch"]) = c.findings t := by
  have hcandidates := c.candidates_remove t
  rcases t.locate_remove ["kill.switch"] c.workspace with hlocate | ⟨hlocate, hthere⟩
  · simp only [findings, Files.exists?, hlocate, hcandidates]
    cases hplace : t.locate c.workspace with
    | error cause => cases cause <;> rfl
    | ok place =>
        by_cases hswitch : ["kill.switch"] = place
        · subst hswitch
          rw [candidates_killSwitch c h hplace]
          simp only [ite_self]
          rfl
        · simp only [Files.holds, Files.isFolder_remove, Files.text?_remove, if_neg hswitch]
  · simp only [findings, Files.exists?, hlocate, hthere]
    rfl

theorem blind_findings (c : Curiosity) : World.Blind fun w => c.findings w.files :=
  fun _ hw => c.findings_remove hw

theorem scan_inward : scan.Inward := by
  rw [scan_eq]
  refine .bind .get fun c => .bind (.lift (.see c.blind_findings)) fun found => ?_
  match found with
  | .error cause => exact .throw _
  | .ok [] => exact .pure _
  | .ok (first :: rest) =>
      exact .bind (.lift (.chance _)) fun _ => .bind (.lift (.ofExcept _)) fun _ =>
        .bind (.set _) fun _ => .pure _

theorem visit_inward (thing : Json) : (visit thing).Inward := by
  refine .bind (.modify _) fun _ => .bind .get fun c => ?_
  cases c.tireOf thing with
  | ok c => exact .set c
  | error e => exact .throw _

theorem explore_inward : explore.Inward := by
  unfold explore
  refine .bind .get fun c => ?_
  cases c.interests with
  | nil => exact scan_inward
  | cons first rest =>
      refine .bind (.lift (.chance _)) fun _ => ?_
      exact .ite (.bind (.pure _) fun _ => .bind (visit_inward _) fun _ => .pure _)
        (.bind (.lift (.chance _)) fun _ => .bind (visit_inward _) fun _ => .pure _)

end Curiosity

/-! ## The other activities -/

theorem Rest.take_inward (now : Moment) : (take now).Inward :=
  .bind (.modify _) fun _ => .bind .get fun _ => .bind (.lift (.ofExcept _)) fun _ => .set _

theorem Mood.drift_inward : drift.Inward := by
  unfold drift
  refine .bind (.lift .now) fun _ => .bind .get fun _ => .bind (.lift (.ofExcept _)) fun _ =>
    .bind (.modify _) fun _ => .bind (.lift (.chance _)) fun _ => .ite ?_ (.pure _)
  exact .bind .get fun _ => .bind (.lift (.look _)) fun _ => .bind (.lift (.chance _)) fun _ =>
    .ite (.bind (.lift (.chance _)) fun _ => .set _) (.pure _)

theorem Mood.color_inward (m : Mood) : m.color.Inward :=
  .bind (.look _) fun _ => .chance _

theorem speak_inward (topic : Topic) : (speak topic).Inward := by
  refine .bind (.lift .now) fun _ => .bind .get fun s => ?_
  cases topic with
  | status uptime children =>
      exact .lift (.bind (.ofExcept _) fun _ => .bind (Mood.color_inward _) fun _ => .pure _)
  | error seenBefore => exact .bind (.set _) fun _ => .lift (.chance _)
  | success task => exact .bind (.set _) fun _ => .lift (.chance _)
  | other => exact .lift (Mood.color_inward _)
  | _ => exact .lift (.chance _)

theorem vary_inward (s : Psyche) (base : Json) : (s.vary base).Inward :=
  .bind .now fun _ => .bind (.look _) fun _ => .bind (.chance _) fun _ =>
    .bind (.ofExcept _) fun _ => .pure _

theorem heartbeat_inward : heartbeat.Inward := by
  refine .bind (.lift .now) fun _ => .bind (.within Mood.drift_inward) fun _ => ?_
  exact .bind .get fun _ => .bind (.lift (.ofExcept _)) fun _ => .bind (.set _) fun _ =>
    .bind (.lift (.chance _)) fun _ => .ite (.set _) (.pure _)

end Psyche

end Persona
