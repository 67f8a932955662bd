import Persona.Proofs.Files.Places
import Persona.Proofs.Scribe.Publishing

/-!
# Where the file of a specification comes to lie

To keep a specification changes one text at most: that of the file at the place which the shelf, the
folder of the category and the name lead to. The name comes from the model and is not looked at. One
with a slash may lead up and out of the folder, or start anew at the root of all folders. A name
without a slash never leaves the folder.

Main statements: `changes_only_file`, `keep_confined_iff`.
-/

namespace Persona.Scribe

open Files (Inside)
open World (Same)

/-! ## What is written -/

/-- The file of a specification can be put at its place in a folder, with this text, once the tree
has the folders for it. -/
structure Spec.Placed (spec : Spec) (w : World) (folder text : String) (tree : Files) : Prop where
  sorted : folderOf spec.category = .ok folder
  composed : spec.fileText w.clock.date = .ok text
  made : w.files.makeFolders ((shelfOf w).join folder) = .ok tree
  located : tree.locate (spec.fileIn w folder) = .ok (spec.fileIn w folder).place
  free : tree.isFolder (spec.fileIn w folder).place = false

/-- What can be put at its place and can be encoded is written. -/
theorem Spec.Placed.shelved {spec : Spec} {w : World} {folder text : String} {tree : Files}
    (h : spec.Placed w folder text tree) (hencodable : Text.halves? text = none) :
    spec.Shelved w folder text (tree.put (spec.fileIn w folder).place text) where
  sorted := h.sorted
  composed := h.composed
  encodable := hencodable
  room := ⟨tree, h.made, Files.write_eq_ok_iff.mpr ⟨h.located, h.free, rfl⟩⟩

theorem Spec.Shelved.placed {spec : Spec} {w : World} {folder text : String} {files : Files}
    (h : spec.Shelved w folder text files) :
    ∃ tree, spec.Placed w folder text tree ∧
      files = tree.put (spec.fileIn w folder).place text := by
  obtain ⟨tree, hmade, hwrite⟩ := h.room
  obtain ⟨hlocated, hfree, hfiles⟩ := Files.write_eq_ok_iff.mp hwrite
  exact ⟨tree, ⟨h.sorted, h.composed, hmade, hlocated, hfree⟩, hfiles⟩

theorem git_files (repository : Path) (arguments : List String) :
    (git repository arguments).Leads (Same World.files) := by
  refine .bind (fun w => ?_) fun _ => .pure _
  exact Act.execute_leaves rfl fun _ => rfl

theorem submit_files (repository : Path) (spec : Spec) (folder : String) (file : Path) :
    (submit repository spec folder file).Leads (Same World.files) :=
  submit_leads (git_files repository) (fun _ _ => rfl) spec folder file

/-- A text without bytes leaves an empty file. -/
def leftOf (text : String) : String := if (Text.halves? text).isSome then "" else text

section

variable {spec : Spec} {w : World}

/-- Before the file is written, only folders are made. -/
theorem keep_of_not_placed (h : ¬∃ folder text tree, spec.Placed w folder text tree) :
    ∃ f tree, keep spec w = (.error f, { w with files := tree }) ∧ tree.texts = w.files.texts := by
  cases hsorted : folderOf spec.category with
  | error e =>
      refine ⟨.mismatch e, w.files, ?_, rfl⟩
      rw [keep, hsorted]
      rfl
  | ok folder =>
  cases hmade : w.files.makeFolders ((shelfOf w).join folder) with
  | error e =>
      obtain ⟨cause, here⟩ := e
      have hfolders := Act.makeFolders_apply ((shelfOf w).join folder) w
      simp only [hmade] at hfolders
      refine ⟨Act.fileFault cause here, w.files, ?_, rfl⟩
      rw [keep, hsorted, Act.bind_of_ok (Act.look_ok folder w), Act.bind_of_ok (shelf_apply w)]
      exact Act.bind_of_error hfolders
  | ok tree =>
  have htexts := Files.texts_makeFolders hmade
  cases hcomposed : spec.fileText w.clock.date with
  | error e =>
      refine ⟨.mismatch e, tree, ?_, htexts⟩
      rw [keep_of_made hsorted hmade, hcomposed]
      rfl
  | ok text =>
      cases hwrite : tree.write (spec.fileIn w folder) (leftOf text) with
      | ok files =>
          obtain ⟨hlocated, hfree, -⟩ := Files.write_eq_ok_iff.mp hwrite
          exact absurd ⟨folder, text, tree, hsorted, hcomposed, hmade, hlocated, hfree⟩ h
      | error cause =>
          have hfile := Act.writeFile_apply (spec.fileIn w folder) text { w with files := tree }
          rw [leftOf] at hwrite
          simp only [hwrite] at hfile
          refine ⟨Act.fileFault cause (spec.fileIn w folder), tree, ?_, htexts⟩
          rw [keep_of_made hsorted hmade, hcomposed, Act.bind_of_ok (Act.look_ok text _)]
          exact Act.bind_of_error hfile

/-- A text without bytes leaves an empty file, and git is not run. -/
theorem keep_of_unencodable {folder text : String} {tree : Files}
    (h : spec.Placed w folder text tree) (hhalves : (Text.halves? text).isSome = true) :
    keep spec w = (.error (.unencodable text),
      { w with files := tree.put (spec.fileIn w folder).place "" }) := by
  have hwrite : tree.write (spec.fileIn w folder) "" =
      .ok (tree.put (spec.fileIn w folder).place "") :=
    Files.write_eq_ok_iff.mpr ⟨h.located, h.free, rfl⟩
  have hfile := Act.writeFile_apply (spec.fileIn w folder) text { w with files := tree }
  simp only [hhalves, if_true, hwrite] at hfile
  rw [keep_of_made h.sorted h.made, h.composed, Act.bind_of_ok (Act.look_ok text _)]
  exact Act.bind_of_error hfile

/-- A file that can be put at its place is there in the end, whatever git does. -/
theorem files_keep_of_placed {folder text : String} {tree : Files}
    (h : spec.Placed w folder text tree) :
    (keep spec w).2.files = tree.put (spec.fileIn w folder).place (leftOf text) := by
  cases hhalves : Text.halves? text with
  | some halves =>
      rw [keep_of_unencodable h (by rw [hhalves]; rfl), leftOf, hhalves]
      rfl
  | none =>
      rw [keep_of_shelved (h.shelved hhalves), leftOf, hhalves]
      exact submit_files _ _ _ _ _

theorem text?_keep_of_placed {folder text : String} {tree : Files}
    (h : spec.Placed w folder text tree) :
    (keep spec w).2.files.text? (spec.fileIn w folder).place = some (leftOf text) := by
  rw [files_keep_of_placed h, Files.text?_put, if_pos rfl]

end

/-! ## Inside of the folder -/

namespace Spec

/-- Keeping the specification changes the text at a place, or puts one there. -/
def Changes (spec : Spec) (w : World) (place : Place) : Prop :=
  (keep spec w).2.files.text? place ≠ w.files.text? place

/-- The place lies in the folder of the category. -/
def OnShelf (spec : Spec) (w : World) (place : Place) : Prop :=
  ∃ folder, folderOf spec.category = .ok folder ∧ Inside ((shelfOf w).join folder).place place

/-- From the folder of the category, the name of the file does not lead out of it. -/
def StaysOnShelf (spec : Spec) (w : World) : Prop :=
  ∀ folder, folderOf spec.category = .ok folder →
    Inside ((shelfOf w).join folder).place (spec.fileIn w folder).place

/-- No text changes but that of the file. -/
theorem changes_only_file {spec : Spec} {w : World} {place : Place} (h : spec.Changes w place) :
    ∃ folder, folderOf spec.category = .ok folder ∧ place = (spec.fileIn w folder).place := by
  by_cases hplaced : ∃ folder text tree, spec.Placed w folder text tree
  · obtain ⟨folder, text, tree, hplaced⟩ := hplaced
    have htexts := Files.texts_makeFolders hplaced.made
    by_cases hplace : (spec.fileIn w folder).place = place
    · exact ⟨folder, hplaced.sorted, hplace.symm⟩
    · have hsame : (keep spec w).2.files.text? place = w.files.text? place := by
        rw [files_keep_of_placed hplaced, Files.text?_put, if_neg hplace, Files.text?, htexts,
          Files.text?]
      exact absurd hsame h
  · obtain ⟨f, tree, hrun, htexts⟩ := keep_of_not_placed hplaced
    have hsame : (keep spec w).2.files.text? place = w.files.text? place := by
      rw [hrun, Files.text?, htexts, Files.text?]
    exact absurd hsame h

/-- The name of a file is none of those that lead nowhere or up. -/
theorem fileName_ne (spec : Spec) {s : String} (hs : s.toList.length < 4) : spec.fileName ≠ s := by
  intro heq
  have hlength : spec.fileName.toList.length = spec.name.text.toList.length + 4 := by
    simp only [fileName, String.toList_append, List.length_append]
    rfl
  rw [heq] at hlength
  omega

theorem noSlash_fileName {spec : Spec} (h : '/' ∉ spec.name.text.toList) :
    '/' ∉ spec.fileName.toList := by
  simp only [fileName, String.toList_append, List.mem_append, not_or]
  exact ⟨h, by decide⟩

theorem fileIn_of_noSlash {spec : Spec} (h : '/' ∉ spec.name.text.toList) (w : World)
    (folder : String) :
    spec.fileIn w folder =
      ⟨((shelfOf w).join folder).anchor, ((shelfOf w).join folder).parts ++ [spec.fileName]⟩ :=
  Path.join_name _ (noSlash_fileName h) (spec.fileName_ne (by decide))
    (spec.fileName_ne (by decide))

/-- A name without a slash stands for a file in the folder itself. -/
theorem place_fileIn_of_noSlash {spec : Spec} (h : '/' ∉ spec.name.text.toList) (w : World)
    (folder : String) :
    (spec.fileIn w folder).place = ((shelfOf w).join folder).place ++ [spec.fileName] := by
  rw [fileIn_of_noSlash h, Path.place_concat _ (spec.fileName_ne (by decide))]

end Spec

/-- A file that can be put at its place is there in the end. What is created or overwritten lies in
the folder of the category just when the name of the file does not lead out of it, or nothing is
written at all. A name without a slash leads nowhere else. -/
theorem keep_confined_iff (spec : Spec) (w : World) :
    (∀ folder text tree, spec.Placed w folder text tree →
      (keep spec w).2.files.text? (spec.fileIn w folder).place = some (leftOf text)) ∧
    ((∀ place, spec.Changes w place → spec.OnShelf w place) ↔
      ((∃ place, spec.Changes w place) → spec.StaysOnShelf w)) ∧
    ('/' ∉ spec.name.text.toList → spec.StaysOnShelf w) := by
  refine ⟨fun folder text tree h => text?_keep_of_placed h, ?_, ?_⟩
  · constructor
    · rintro hshelf ⟨place, hchanges⟩ folder hfolder
      obtain ⟨folder₁, hfolder₁, hinside⟩ := hshelf place hchanges
      obtain ⟨folder₂, hfolder₂, hplace⟩ := Spec.changes_only_file hchanges
      rw [hfolder] at hfolder₁ hfolder₂
      cases hfolder₁
      cases hfolder₂
      rwa [hplace] at hinside
    · intro hstays place hchanges
      obtain ⟨folder, hfolder, hplace⟩ := Spec.changes_only_file hchanges
      have hinside := hstays ⟨place, hchanges⟩ folder hfolder
      rw [← hplace] at hinside
      exact ⟨folder, hfolder, hinside⟩
  · intro hslash folder hfolder
    rw [Spec.place_fileIn_of_noSlash hslash]
    exact Files.inside_concat _ _

/-- The identity, with a name that leads up to the home folder. -/
def strayIdentity : Spec := { identity with name := .str "../../../../../../escaped" }

/-- It is written into the home folder, far from the folder of its category. -/
theorem stray_file_leaves_shelf :
    strayIdentity.Changes (identityWorld []) ["escaped.phi"] ∧
      ¬strayIdentity.OnShelf (identityWorld []) ["escaped.phi"] := by
  constructor
  · have hwritten : ((keep strayIdentity (identityWorld [])).2.files.text? ["escaped.phi"]).isSome =
        true := by decide +kernel
    intro hsame
    rw [hsame] at hwritten
    cases hwritten
  · rintro ⟨folder, hfolder, hinside⟩
    cases hfolder
    revert hinside
    decide +kernel

/-- The identity, with another title. -/
def titledIdentity (title : String) : Spec := { identity with title := .str title }

theorem placed_titledIdentity (title : String) (commands : List (Scripted Outcome)) :
    ∃ folder text tree,
      (titledIdentity title).Placed (identityWorld commands) folder text tree := by
  obtain ⟨folder, text, files, hshelved⟩ := shelved_identity commands
  obtain ⟨tree, hplaced, -⟩ := hshelved.placed
  exact ⟨folder, _, tree, hplaced.sorted, rfl, hplaced.made, hplaced.located, hplaced.free⟩

end Persona.Scribe
