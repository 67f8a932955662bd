import Persona.Proofs.World.Leading

/-!
# The kill switch

Whether the kill switch is down is a question about the files, which two ways of asking answer
alike. Nothing takes it away again.

Main statements: `Act.fileExists_killSwitch`, `Act.existsWritten_killSwitch`.
-/

namespace Persona

/-! ## Files that stay -/

namespace Files

theorem isFolder_put (t : Files) (place other : Place) (s : String) :
    (t.put other s).isFolder place = t.isFolder place := rfl

theorem text?_put (t : Files) (place other : Place) (s : String) :
    (t.put other s).text? place = if other = place then some s else t.text? place :=
  Fields.get?_put t.texts other place s

theorem holds_put {t : Files} {place : Place} (h : t.holds place = true) (other : Place)
    (s : String) : (t.put other s).holds place = true := by
  simp only [holds, isFolder_put, text?_put] at h ⊢
  split <;> simp_all

theorem holds_addFolder {t : Files} {place : Place} (h : t.holds place = true) (other : Place) :
    (t.addFolder other).holds place = true := by
  unfold addFolder
  split
  · exact h
  · simp only [holds, isFolder, text?, Bool.or_eq_true] at h ⊢
    rcases h with ((h | h) | h) | h
    · exact .inl (.inl (.inl h))
    · exact .inl (.inl (.inr h))
    · exact .inl (.inr (by simpa using Or.inl (by simpa using h)))
    · exact .inr h

/-- A change at the place that a path names, unless the place is taken. -/
theorem exists_place_of_ok {t t' : Files} {p : Path} {taken : Place → Bool} {cause : Cause}
    {change : Place → Files}
    (h : (do
      let place ← t.locate p
      if taken place then .error cause else .ok (change place)) = .ok t') :
    ∃ place, t' = change place := by
  cases hlocate : t.locate p with
  | error cause =>
      rw [hlocate] at h
      cases h
  | ok place =>
      rw [hlocate] at h
      change (if taken place then _ else _) = _ at h
      split at h
      · cases h
      · exact ⟨place, (Except.ok.inj h).symm⟩

theorem holds_write {t t' : Files} {p : Path} {s : String} (h : t.write p s = .ok t')
    {place : Place} (hplace : t.holds place = true) : t'.holds place = true := by
  obtain ⟨other, rfl⟩ := exists_place_of_ok h
  exact holds_put hplace other s

theorem holds_makeFolder {t t' : Files} {p : Path} (h : t.makeFolder p = .ok t')
    {place : Place} (hplace : t.holds place = true) : t'.holds place = true := by
  obtain ⟨other, rfl⟩ := exists_place_of_ok h
  exact holds_addFolder hplace other

end Files

namespace Act

theorem wakeful_files (w : World) {files : Files}
    (h : ∀ place, w.files.holds place = true → files.holds place = true) :
    World.Wakeful w { w with files } :=
  ⟨rfl, rfl, rfl, Int.le_refl w.logged, rfl, h⟩

theorem leads_writeFile (p : Path) (text : String) : (writeFile p text).Leads World.Wakeful := by
  intro w
  rw [writeFile_apply]
  cases hwrite : w.files.write p (if (Text.halves? text).isSome then "" else text) with
  | error cause => exact refl w
  | ok files => exact wakeful_files w fun _ => Files.holds_write hwrite

theorem leads_makeFolder (p : Path) : (makeFolder p).Leads World.Wakeful := by
  refine .get_bind fun w => ?_
  cases hmake : w.files.makeFolder p with
  | ok files => exact wakeful_files w fun _ => Files.holds_makeFolder hmake
  | error cause =>
      dsimp only
      cases w.files.keepFolder p cause <;> exact refl w

end Act

/-! ## The switch -/

namespace World

/-- The kill switch is down. -/
def Halted (w : World) : Prop := w.files.holds ["kill.switch"] = true

instance (w : World) : Decidable w.Halted := inferInstanceAs (Decidable (_ = _))

end World

theorem Files.follow_killSwitch (t : Files) :
    t.follow [] ["kill.switch"] = .ok ["kill.switch"] := by
  have hsize : ¬ nameLimit < byteSize "kill.switch" := by decide
  have hhome : t.isFolder [] = true := rfl
  rw [follow, if_pos hhome, if_neg hsize, if_neg (by decide)]
  rfl

namespace Act

theorem fileExists_killSwitch (w : World) :
    fileExists killSwitch w = (.ok (w.files.holds ["kill.switch"]), w) := by
  have hlocate : w.files.locate killSwitch = .ok ["kill.switch"] := by
    have hwritten : Files.checkWritten killSwitch.text = .ok () := rfl
    rw [Files.locate, hwritten]
    exact w.files.follow_killSwitch
  rw [fileExists, bind_of_ok (get_apply w), Files.exists?, hlocate]
  rfl

theorem existsWritten_killSwitch (w : World) :
    existsWritten "kill.switch" w = (.ok (w.files.holds ["kill.switch"]), w) := by
  have hlocate : w.files.locateWritten "kill.switch" = .ok ["kill.switch"] := by
    have hwritten : Files.checkWritten "kill.switch" = .ok () := rfl
    rw [Files.locateWritten, hwritten]
    change (w.files.follow [] ["kill.switch"] >>= fun place => _) = _
    rw [Files.follow_killSwitch]
    rfl
  rw [existsWritten, bind_of_ok (get_apply w), hlocate]
  rfl

end Act

end Persona
