import Persona.Proofs.Files.Names
import Persona.Proofs.Outcome

/-!
# The places that paths name

A path that can be followed leads to one place, which can be told from the path alone: each part
goes down to the place of that name, and two dots go up. Which files and folders there are only
decides whether the path can be followed.

Writing a text changes the text at that place and no other. Making folders changes no text.

Main statements: `locate_eq_place`, `write_eq_ok_iff`, `texts_makeFolders`.
-/

namespace Persona

namespace Files

/-- The place that parts lead to from another one. -/
def resolve (place : Place) (parts : List String) : Place :=
  parts.foldl (fun place part => if part == ".." then above place else place ++ [part]) place

theorem resolve_append (place : Place) (parts more : List String) :
    resolve place (parts ++ more) = resolve (resolve place parts) more := by
  simp only [resolve, List.foldl_append]

theorem resolve_singleton {name : String} (h : name ≠ "..") (place : Place) :
    resolve place [name] = place ++ [name] := by
  simp only [resolve, List.foldl_cons, List.foldl_nil, beq_iff_eq, if_neg h]

/-- Parts that can be followed lead where they are said to lead. -/
theorem follow_eq_resolve {t : Files} {place target : Place} {parts : List String}
    (h : t.follow place parts = .ok target) : target = resolve place parts := by
  fun_induction follow t place parts with
  | case1 place =>
      cases h
      rfl
  | case2 place part rest hfolder hsize => cases h
  | case3 place part rest hfolder hsize hup ih =>
      simp only [ih h, resolve, List.foldl_cons, hup, if_true]
  | case4 place part rest hfolder hsize hup ih =>
      simp only [ih h, resolve, List.foldl_cons, hup]
      rfl
  | case5 place part rest hfolder htext => cases h
  | case6 place part rest hfolder htext => cases h

/-- A place lies in a folder, at any depth. -/
def Inside (folder place : Place) : Prop := folder <+: place ∧ folder ≠ place

instance (folder place : Place) : Decidable (Inside folder place) :=
  inferInstanceAs (Decidable (_ ∧ _))

theorem inside_concat (folder : Place) (name : String) : Inside folder (folder ++ [name]) := by
  constructor
  · exact List.prefix_append folder [name]
  · simp

end Files

/-- The place where a path starts. -/
def Anchor.place : Anchor → Place
  | root _ => ["/"]
  | _ => []

namespace Path

/-- The place that a path names. -/
def place (p : Path) : Place := Files.resolve p.anchor.place p.parts

theorem join_name (p : Path) {name : String} (hslash : '/' ∉ name.toList) (hempty : name ≠ "")
    (hdot : name ≠ ".") : p.join name = ⟨p.anchor, p.parts ++ [name]⟩ := by
  simp only [join, ofText_name hslash hempty hdot, if_true]

theorem place_concat (p : Path) {name : String} (hup : name ≠ "..") :
    (⟨p.anchor, p.parts ++ [name]⟩ : Path).place = p.place ++ [name] := by
  simp only [place, Files.resolve_append, Files.resolve_singleton hup]

end Path

namespace Files

variable {t t' : Files} {p : Path}

theorem locate_eq_place {target : Place} (h : t.locate p = .ok target) : target = p.place := by
  obtain ⟨_, -, h⟩ := Outcome.of_bind_eq_ok h
  unfold reach at h
  unfold Path.place
  cases hanchor : p.anchor with
  | root double =>
      rw [hanchor] at h
      exact follow_eq_resolve h
  | here =>
      rw [hanchor] at h
      exact follow_eq_resolve h
  | home =>
      rw [hanchor] at h
      exact follow_eq_resolve h

/-- A text is written at the place that its path names, if that can be reached and is no folder. -/
theorem write_eq_ok_iff {s : String} :
    t.write p s = .ok t' ↔
      t.locate p = .ok p.place ∧ t.isFolder p.place = false ∧ t' = t.put p.place s := by
  constructor
  · intro h
    obtain ⟨target, hlocate, h⟩ := Outcome.of_bind_eq_ok h
    obtain rfl := locate_eq_place hlocate
    cases hfolder : t.isFolder p.place with
    | true => simp only [hfolder, if_true, reduceCtorEq] at h
    | false =>
        simp only [hfolder, Bool.false_eq_true, if_false, Except.ok.injEq] at h
        exact ⟨hlocate, rfl, h.symm⟩
  · rintro ⟨hlocate, hfolder, rfl⟩
    rw [write, Outcome.bind_of_ok hlocate, hfolder]
    rfl

/-! ## Making folders -/

theorem texts_addFolder (t : Files) (place : Place) : (t.addFolder place).texts = t.texts := by
  unfold addFolder
  split <;> rfl

theorem texts_makeFolder (h : t.makeFolder p = .ok t') : t'.texts = t.texts := by
  obtain ⟨place, rfl⟩ := exists_place_of_ok h
  exact texts_addFolder t place

theorem eq_of_keepFolder {cause : Cause} (h : t.keepFolder p cause = .ok t') : t' = t := by
  unfold keepFolder at h
  split at h
  · split at h
    · cases h
      rfl
    · cases h
  · cases h

theorem texts_makeFoldersTo {depth : Nat} (h : t.makeFoldersTo p depth = .ok t') :
    t'.texts = t.texts := by
  induction depth generalizing t' with
  | zero =>
      cases h
      rfl
  | succ depth ih =>
      rw [makeFoldersTo] at h
      split at h
      · next hmake =>
          cases h
          exact texts_makeFolder hmake
      · split at h
        · cases h
        · next above habove =>
            have habove := ih habove
            split at h
            · next hmake =>
                cases h
                exact (texts_makeFolder hmake).trans habove
            · rw [eq_of_keepFolder h]
              exact habove
      · rw [eq_of_keepFolder h]

/-- Making folders changes no text. -/
theorem texts_makeFolders (h : t.makeFolders p = .ok t') : t'.texts = t.texts :=
  texts_makeFoldersTo h

end Files

end Persona
