import Persona.Proofs.Json.Quoting
import Persona.Proofs.Text.Ascii
import Persona.Proofs.World.KillSwitch

/-!
# Names in paths

A name of printable characters without a slash stands for itself: as a path it leads to the place of
that name in the home folder, and behind a folder and a slash to the place in that folder.

Main statements: `locate_name`, `locate_within`, `locateWritten_within`.
-/

namespace Persona

/-! ## Paths taken apart -/

namespace Text

theorem cut?_singleton_of_not_mem {x : Char} {cs : List Char} (h : x ∉ cs) :
    cut? [x] cs = none := by
  induction cs with
  | nil => rfl
  | cons c cs ih =>
      rw [List.mem_cons, not_or] at h
      have hdrop : dropPattern? [x] (c :: cs) = none := if_neg h.1
      rw [cut?, hdrop, ih h.2]
      rfl

theorem cut?_singleton_append {x : Char} {a : List Char} (h : x ∉ a) (b : List Char) :
    cut? [x] (a ++ x :: b) = some (a, b) := by
  induction a with
  | nil => simp [cut?, dropPattern?]
  | cons c a ih =>
      rw [List.mem_cons, not_or] at h
      have hdrop : dropPattern? [x] (c :: (a ++ x :: b)) = none := if_neg h.1
      rw [List.cons_append, cut?, hdrop, ih h.2]
      rfl

theorem piecesFrom_of_not_mem {x : Char} {cs : List Char} (h : x ∉ cs) (fuel : Nat) :
    piecesFrom [x] fuel cs = [cs] := by
  cases fuel with
  | zero => rfl
  | succ fuel => rw [piecesFrom, cut?_singleton_of_not_mem h]

theorem not_mem_of_mem_splitOn {x : Char} {cs piece : List Char} (h : piece ∈ cs.splitOn x) :
    x ∉ piece := by
  induction cs generalizing piece with
  | nil =>
      rw [List.mem_singleton.mp h]
      exact List.not_mem_nil
  | cons c cs ih =>
      obtain ⟨first, others, hpieces⟩ := List.exists_cons_of_ne_nil (List.splitOn_ne_nil x cs)
      rw [List.splitOn_cons_eq_if_modifyHead] at h
      by_cases hc : c = x
      · rw [if_pos (beq_iff_eq.mpr hc), List.mem_cons] at h
        cases h with
        | inl hnil =>
            rw [hnil]
            exact List.not_mem_nil
        | inr hmem => exact ih hmem
      · rw [if_neg (by simpa using hc), hpieces, List.modifyHead_cons, List.mem_cons] at h
        rw [hpieces] at ih
        cases h with
        | inl hfirst =>
            rw [hfirst, List.mem_cons, not_or]
            exact ⟨Ne.symm hc, ih List.mem_cons_self⟩
        | inr hmem => exact ih (List.mem_cons_of_mem first hmem)

theorem piecesFrom_eq_splitOn {x : Char} {fuel : Nat} {cs : List Char} (hfuel : cs.length ≤ fuel) :
    piecesFrom [x] fuel cs = cs.splitOn x := by
  induction fuel generalizing cs with
  | zero =>
      obtain rfl := List.length_eq_zero_iff.mp (Nat.le_zero.mp hfuel)
      rfl
  | succ fuel ih =>
      by_cases hmem : x ∈ cs
      · obtain ⟨a, b, rfl, ha⟩ := List.eq_append_cons_of_mem hmem
        have hb : b.length ≤ fuel := by
          rw [List.length_append, List.length_cons] at hfuel
          omega
        rw [piecesFrom, cut?_singleton_append ha, List.splitOn_append_cons_self_of_not_mem ha,
          ← ih hb]
      · rw [piecesFrom_of_not_mem hmem, List.splitOn_eq_singleton hmem]

theorem split_slash_eq (s : String) :
    split s "/" = (s.toList.splitOn '/').map String.ofList := by
  rw [split]
  exact congrArg _ (piecesFrom_eq_splitOn (Nat.le_refl _))

theorem split_slash {s : String} (h : '/' ∉ s.toList) : split s "/" = [s] := by
  rw [split_slash_eq, List.splitOn_eq_singleton h, List.map_singleton, String.ofList_toList]

theorem split_slash_append (a b : String) :
    split (a ++ "/" ++ b) "/" = split a "/" ++ split b "/" := by
  have hchars : (a ++ "/" ++ b).toList = a.toList ++ '/' :: b.toList := by
    simp [String.toList_append]
  simp only [split_slash_eq, hchars, List.splitOn_append_cons_self, List.map_append]

/-- The pieces of a path are parted by its slashes and hold none. -/
theorem noSlash_of_mem_split {s part : String} (h : part ∈ split s "/") : '/' ∉ part.toList := by
  rw [split_slash_eq, List.mem_map] at h
  obtain ⟨piece, hpiece, rfl⟩ := h
  rw [String.toList_ofList]
  exact not_mem_of_mem_splitOn hpiece

end Text

theorem Path.anchorOf_append {a : List Char} (hne : a ≠ []) (h : '/' ∉ a) (b : List Char) :
    anchorOf (a ++ b) = .here := by
  obtain ⟨c, cs, rfl⟩ := List.exists_cons_of_ne_nil hne
  have hc : c ≠ '/' := fun hc => h (hc ▸ List.mem_cons_self)
  rw [anchorOf, List.cons_append, List.takeWhile_cons_of_neg (by simpa using hc)]

/-- A single part without a slash, which is no dot, is the whole path. -/
theorem Path.ofText_name {name : String} (hslash : '/' ∉ name.toList) (hempty : name ≠ "")
    (hdot : name ≠ ".") : ofText name = ⟨.here, [name]⟩ := by
  have hchars : name.toList ≠ [] := fun hnil => hempty (String.toList_eq_nil_iff.mp hnil)
  have hanchor := anchorOf_append hchars hslash []
  rw [List.append_nil] at hanchor
  have hparts : [name].filter (fun p => p != "" && p != ".") = [name] :=
    List.filter_cons_of_pos (by simp [hempty, hdot])
  simp only [ofText, hanchor, Text.split_slash hslash, hparts]

/-- No part of a path that was read is empty or holds a slash. -/
theorem Path.of_mem_parts_ofText {s part : String} (h : part ∈ (ofText s).parts) :
    part ≠ "" ∧ '/' ∉ part.toList := by
  obtain ⟨hmem, hpart⟩ := List.mem_filter.mp h
  simp only [Bool.and_eq_true, bne_iff_ne, ne_eq] at hpart
  exact ⟨hpart.1, Text.noSlash_of_mem_split hmem⟩

/-! ## Paths as they are written -/

theorem Path.text_eq {p : Path} (h : p.parts ≠ []) :
    p.text = p.anchor.text ++ "/".intercalate p.parts := by
  obtain ⟨anchor, parts⟩ := p
  cases parts with
  | nil => exact absurd rfl h
  | cons part parts => cases anchor <;> rfl

/-- Further parts are written behind a slash. -/
theorem Path.text_append {p : Path} {parts : List String} (hp : p.parts ≠ []) (h : parts ≠ []) :
    (⟨p.anchor, p.parts ++ parts⟩ : Path).text = p.text ++ "/" ++ "/".intercalate parts := by
  have hparts : p.parts ++ parts ≠ [] := by simp [hp]
  rw [text_eq hp, text_eq hparts, String.intercalate_append_of_ne_nil hp h]
  simp only [String.append_assoc]

/-- What is written of a path gives back its parts. -/
theorem Path.split_text {p : Path} (hanchor : p.anchor = .here) (hp : p.parts ≠ [])
    (h : ∀ part ∈ p.parts, '/' ∉ part.toList) : Text.split p.text "/" = p.parts := by
  have hslash : "/".toList = ['/'] := rfl
  have hchars : p.text.toList = ['/'].intercalate (p.parts.map String.toList) := by
    rw [text_eq hp, hanchor, String.toList_append, String.toList_intercalate, hslash]
    rfl
  have hpieces : ∀ piece ∈ p.parts.map String.toList, '/' ∉ piece := by
    simpa only [List.forall_mem_map] using h
  rw [Text.split_slash_eq, hchars, List.splitOn_intercalate '/' hpieces (by simpa using hp),
    List.map_map]
  simp [Function.comp_def]

namespace Files

/-! ## Names -/

/-- A name that stands for itself in a path: printable, without a slash, not too long, and not one
of those that lead nowhere or up. -/
structure PlainName (name : String) : Prop where
  printable : ∀ c ∈ name.toList, Json.isPrintable c = true
  noSlash : '/' ∉ name.toList
  notEmpty : name ≠ ""
  notHere : name ≠ "."
  notAbove : name ≠ ".."
  fits : byteSize name ≤ nameLimit

variable {t : Files} {folder name : String}

namespace PlainName

theorem toList_ne_nil (h : PlainName name) : name.toList ≠ [] := fun hnil =>
  h.notEmpty (String.toList_eq_nil_iff.mp hnil)

theorem filter_cons (h : PlainName name) (names : List String) :
    (name :: names).filter (fun p => p != "" && p != ".") =
      name :: names.filter fun p => p != "" && p != "." :=
  List.filter_cons_of_pos (by simp [h.notEmpty, h.notHere])

theorem ofText (h : PlainName name) : Path.ofText name = ⟨.here, [name]⟩ :=
  Path.ofText_name h.noSlash h.notEmpty h.notHere

theorem text_ofText (h : PlainName name) : (Path.ofText name).text = name := by
  rw [h.ofText]
  exact String.empty_append

theorem ofText_append (hfolder : PlainName folder) (h : PlainName name) :
    Path.ofText (folder ++ "/" ++ name) = ⟨.here, [folder, name]⟩ := by
  have hanchor := Path.anchorOf_append hfolder.toList_ne_nil hfolder.noSlash ("/" ++ name).toList
  rw [← String.toList_append, ← String.append_assoc] at hanchor
  rw [Path.ofText, hanchor, Text.split_slash_append, Text.split_slash hfolder.noSlash,
    Text.split_slash h.noSlash, List.singleton_append, hfolder.filter_cons, h.filter_cons,
    List.filter_nil]

theorem ofText_join (hfolder : PlainName folder) (h : PlainName name) :
    (Path.ofText folder).join name = ⟨.here, [folder, name]⟩ := by
  rw [Path.join, hfolder.ofText, h.ofText]
  rfl

/-- A path that ends with a plain name does not end like that of a folder. -/
theorem not_endsWith (h : PlainName name) (folder : String) :
    (Text.endsWith (folder ++ "/" ++ name) "/" || Text.endsWith (folder ++ "/" ++ name) "/.") =
      false := by
  have hchars : (folder ++ "/" ++ name).toList.reverse =
      name.toList.reverse ++ '/' :: folder.toList.reverse := by
    simp [String.toList_append]
  have hslash : '/' ∉ name.toList.reverse := fun hmem => h.noSlash (List.mem_reverse.mp hmem)
  have hdot : name.toList.reverse ≠ ['.'] := fun hdot => by
    rw [List.reverse_eq_iff] at hdot
    exact h.notHere (String.toList_inj.mp hdot)
  obtain ⟨c, cs, hcs⟩ := List.exists_cons_of_ne_nil (mt List.reverse_eq_nil_iff.mp h.toList_ne_nil)
  rw [hcs] at hslash hdot hchars
  have hc : '/' ≠ c := fun hc => hslash (hc ▸ List.mem_cons_self)
  rw [Text.endsWith, Text.endsWith, hchars]
  change ((if '/' = c then _ else none : Option (List Char)).isSome ||
    (if '.' = c then Text.dropPattern? ['/'] (cs ++ _) else none : Option (List Char)).isSome) = _
  rw [if_neg hc]
  cases cs with
  | nil =>
      have hc' : '.' ≠ c := fun hc => hdot (hc ▸ rfl)
      rw [if_neg hc']
      rfl
  | cons d cs =>
      have hd : '/' ≠ d := fun hd => hslash (hd ▸ List.mem_cons_of_mem c List.mem_cons_self)
      have hdrop : Text.dropPattern? ['/'] (d :: cs ++ '/' :: folder.toList.reverse) = none :=
        if_neg hd
      rw [hdrop, ite_self]
      rfl

/-- A plain name is followed into the folder where it stands. -/
theorem follow_cons (h : PlainName name) {place : Place} (hplace : t.isFolder place = true)
    (rest : List String) : t.follow place (name :: rest) = t.follow (place ++ [name]) rest := by
  rw [follow, if_pos hplace, if_neg (Nat.not_lt.mpr h.fits), if_neg (by simpa using h.notAbove)]

end PlainName

theorem isFolder_nil (t : Files) : t.isFolder [] = true := rfl

theorem checkWritten_of_isPrintable {s : String} (h : ∀ c ∈ s.toList, Json.isPrintable c = true)
    (hsize : byteSize s < pathLimit) : checkWritten s = .ok () := by
  have hhalves : unnamable? s = none :=
    Text.firstHalves?_of_ascii _ fun c hc => Json.toNat_lt_of_isPrintable (h c hc)
  have hnul : ¬ s.toList.contains (Char.ofNat 0) = true := fun hmem => by
    cases h _ (List.contains_iff_mem.mp hmem)
  rw [checkWritten, hhalves, if_neg (by simp), if_neg hnul, if_neg (Nat.not_le.mpr hsize)]

theorem byteSize_of_isPrintable {s : String} (h : ∀ c ∈ s.toList, Json.isPrintable c = true) :
    byteSize s = s.toList.length :=
  byteSize_of_ascii fun c hc => Json.toNat_lt_of_isPrintable (h c hc)

theorem PlainName.checkWritten_append (hfolder : PlainName folder) (h : PlainName name) :
    checkWritten (folder ++ "/" ++ name) = .ok () := by
  have hprintable : ∀ c ∈ (folder ++ "/" ++ name).toList, Json.isPrintable c = true := by
    intro c hc
    rw [String.toList_append, String.toList_append, List.mem_append, List.mem_append] at hc
    rcases hc with (hc | hc) | hc
    · exact hfolder.printable c hc
    · exact List.all_eq_true.mp (by decide) c hc
    · exact h.printable c hc
  refine checkWritten_of_isPrintable hprintable ?_
  have hsize := hfolder.fits
  have hsize' := h.fits
  rw [byteSize_of_isPrintable hfolder.printable] at hsize
  rw [byteSize_of_isPrintable h.printable] at hsize'
  rw [byteSize_of_isPrintable hprintable, String.toList_append, String.toList_append, List.length_append,
    List.length_append]
  have hslash : "/".toList.length = 1 := rfl
  rw [nameLimit] at hsize hsize'
  rw [pathLimit]
  omega

theorem locate_name (t : Files) (h : PlainName name) :
    t.locate (Path.ofText name) = .ok [name] := by
  have hsize : byteSize name < pathLimit := Nat.lt_of_le_of_lt h.fits (by decide)
  rw [locate, h.text_ofText, checkWritten_of_isPrintable h.printable hsize, h.ofText]
  exact h.follow_cons (isFolder_nil t) []

theorem reach_within (hfolder : PlainName folder) (h : PlainName name)
    (ht : t.isFolder [folder] = true) : t.reach ⟨.here, [folder, name]⟩ = .ok [folder, name] :=
  (hfolder.follow_cons (isFolder_nil t) _).trans (h.follow_cons ht [])

theorem locate_within (hfolder : PlainName folder) (h : PlainName name)
    (ht : t.isFolder [folder] = true) :
    t.locate ((Path.ofText folder).join name) = .ok [folder, name] := by
  have htext : (Path.mk .here [folder, name]).text = folder ++ "/" ++ name := by
    exact String.empty_append
  rw [hfolder.ofText_join h, locate, htext, hfolder.checkWritten_append h]
  exact reach_within hfolder h ht

theorem locateWritten_within (hfolder : PlainName folder) (h : PlainName name)
    (ht : t.isFolder [folder] = true) :
    t.locateWritten (folder ++ "/" ++ name) = .ok [folder, name] := by
  have hempty : (folder ++ "/" ++ name).isEmpty = false := by
    simp
  rw [locateWritten, hfolder.checkWritten_append h, hempty, hfolder.ofText_append h,
    reach_within hfolder h ht, h.not_endsWith folder]
  rfl

theorem text?_addFolder (t : Files) (place other : Place) :
    (t.addFolder other).text? place = t.text? place := by
  unfold addFolder
  split <;> rfl

theorem isFolder_addFolder (t : Files) (place other : Place) :
    (t.addFolder other).isFolder place = true ↔ t.isFolder place = true ∨ other = place := by
  unfold addFolder
  split
  case isTrue h =>
    refine ⟨.inl, fun hor => hor.elim id fun hother => hother ▸ h⟩
  case isFalse =>
    simp only [isFolder, Bool.or_eq_true, List.contains_iff_mem, List.mem_append,
      List.mem_singleton, or_assoc, @eq_comm _ place other]

end Files

/-! ## Files in a folder -/

/-- The world with other files. -/
def World.withFiles (w : World) (files : Files) : World := { w with files }

namespace Act

variable {w : World} {folder name : String}

open Files (PlainName)

/-- A folder is made, or kept, unless a text has its name. -/
theorem makeFolder_name (h : PlainName name) (hfree : w.files.text? [name] = none) :
    makeFolder (Path.ofText name) w = (.ok (), w.withFiles (w.files.addFolder [name])) := by
  have hlocate := w.files.locate_name h
  rw [makeFolder, bind_of_ok (get_apply w)]
  cases hfolder : w.files.isFolder [name] with
  | false =>
      have hmake : w.files.makeFolder (Path.ofText name) = .ok (w.files.addFolder [name]) := by
        rw [Files.makeFolder, hlocate]
        change (if w.files.holds [name] then _ else _) = _
        rw [Files.holds, hfolder, hfree]
        rfl
      simp only [hmake]
      rfl
  | true =>
      have hmake : w.files.makeFolder (Path.ofText name) = .error .exists := by
        rw [Files.makeFolder, hlocate]
        change (if w.files.holds [name] then _ else _) = _
        rw [Files.holds, hfolder]
        rfl
      have hkeep : w.files.keepFolder (Path.ofText name) .exists = .ok w.files := by
        rw [Files.keepFolder, hlocate]
        exact if_pos hfolder
      rw [Files.addFolder, if_pos hfolder]
      simp only [hmake, hkeep]
      rfl

theorem writeFile_within (hfolder : PlainName folder) (h : PlainName name)
    (hinside : w.files.isFolder [folder] = true)
    (hplace : w.files.isFolder [folder, name] = false) {text : String}
    (htext : Text.halves? text = none) :
    writeFile ((Path.ofText folder).join name) text w =
      (.ok (), w.withFiles (w.files.put [folder, name] text)) := by
  have hwrite : w.files.write ((Path.ofText folder).join name) text =
      .ok (w.files.put [folder, name] text) := by
    rw [Files.write, Files.locate_within hfolder h hinside]
    change (if w.files.isFolder [folder, name] then _ else _) = _
    rw [hplace]
    rfl
  rw [writeFile_apply, htext]
  simp only [Option.isSome_none, Bool.false_eq_true, if_false, hwrite]
  rfl

/-- A text in a folder of the home folder is there and is read, its line ends unified. -/
theorem readWritten_within (hfolder : PlainName folder) (h : PlainName name)
    (hinside : w.files.isFolder [folder] = true)
    (hplace : w.files.isFolder [folder, name] = false) {text : String}
    (htext : w.files.text? [folder, name] = some text) :
    existsWritten (folder ++ "/" ++ name) w = (.ok true, w) ∧
      readWritten (folder ++ "/" ++ name) w =
        (.ok (String.ofList (Text.unifyLineEnds text.toList)), w) := by
  have hlocate := Files.locateWritten_within hfolder h hinside
  constructor
  · rw [existsWritten, bind_of_ok (get_apply w), hlocate]
    simp only [Files.holds, htext, Option.isSome_some, Bool.or_true]
    rfl
  · have hread : (w.files.locateWritten (folder ++ "/" ++ name) >>= w.files.readPlace) =
        .ok text := by
      rw [hlocate]
      change w.files.readPlace [folder, name] = _
      rw [Files.readPlace, hplace, htext]
      rfl
    rw [readWritten, bind_of_ok (get_apply w), hread]
    rfl

end Act

end Persona
