import Persona.Mention.Inbox
import Persona.Proofs.Json.Limits
import Persona.Proofs.Text.Ascii
import Persona.Proofs.World.Running

/-!
# The cursor file as fields

The file is described by the fields of its object, and each activity on it by what it does to them.
The path of the file needs no folder to be there and names the same place in every world.

A save patches the object that it finds, or it starts from its own key and puts the object's fields
after it. Either way a field is changed under the saved key and nowhere else.

Main statements:

* `load_of_holds`: what a load gives;
* `save_of_holds`, `saveFirst_of_holds`: what the two kinds of save leave.
-/

namespace Persona

/-! ## Putting many fields -/

namespace Fields

variable {κ α : Type} [DecidableEq κ]

/-- Fields that are put one by one win over those that were there before. -/
theorem get?_foldl_put {fs : List (κ × α)} (h : (fs.map (·.1)).Nodup) (acc : List (κ × α))
    (key : κ) :
    get? (fs.foldl (fun acc f => put acc f.1 f.2) acc) key = (get? fs key).or (get? acc key) := by
  induction fs generalizing acc with
  | nil => rfl
  | cons f fs ih =>
      obtain ⟨k, v⟩ := f
      rw [List.map_cons, List.nodup_cons] at h
      rw [List.foldl_cons, ih h.2, get?_put, get?_cons]
      by_cases hk : key = k
      · subst hk
        have hnone : get? fs key = none := get?_eq_none_iff.mpr h.1
        simp [hnone]
      · simp [Ne.symm hk]

end Fields

namespace Mention.Cursor

open Json (depthLimit)

/-! ## Values and fields that can be kept -/

/-- A value that a cursor takes: null, a text or a whole number that can be written. -/
def Storable : Json → Prop
  | .null => True
  | .str s => Text.Sound s
  | .int n => n.natAbs < Number.tenPow Text.digitLimit
  | _ => False

theorem Storable.plain {v : Json} (h : Storable v) : v.Plain := by
  cases v with
  | null => trivial
  | str s => exact h
  | int n => trivial
  | bool b | float x | arr xs | obj fs => exact h.elim

theorem Storable.within {v : Json} (h : Storable v) (depth : Nat) : v.Within depth := by
  cases v with
  | null | str s => cases depth <;> trivial
  | int n => cases depth <;> exact h
  | bool b | float x | arr xs | obj fs => exact h.elim

/-- A number of at most as many digits as the limit allows is storable. -/
theorem storable_int {n : Int} {digits : Nat} (h : n.natAbs < Number.tenPow digits)
    (hdigits : digits ≤ Text.digitLimit) : Storable (.int n) :=
  Number.lt_tenPow_of_le h hdigits

/-- The fields of an object that is read back as it was written. -/
structure Kept (fs : List (String × Json)) : Prop where
  plain : (Json.obj fs).Plain
  within : (Json.obj fs).Within depthLimit

namespace Kept

theorem nil : Kept [] := ⟨trivial, List.nodup_nil, trivial⟩

theorem nodup {fs : List (String × Json)} (h : Kept fs) : (fs.map (·.1)).Nodup := h.within.1

theorem plain_put {fs : List (String × Json)} (h : Json.PlainFields fs) {key : String}
    (hkey : Text.Sound key) {v : Json} (hv : v.Plain) : Json.PlainFields (Fields.put fs key v) := by
  induction fs with
  | nil => exact ⟨hkey, hv, trivial⟩
  | cons f fs ih =>
      obtain ⟨k, u⟩ := f
      obtain ⟨hk, hu, hfs⟩ := h
      rw [Fields.put]
      split
      · exact ⟨hk, hv, hfs⟩
      · exact ⟨hk, hu, ih hfs⟩

/-- Putting a value keeps fields that can be kept. -/
theorem put {fs : List (String × Json)} (h : Kept fs) {key : String} (hkey : Text.Sound key)
    {v : Json} (hplain : v.Plain) (hwithin : v.Within (depthLimit - 1)) :
    Kept (Fields.put fs key v) :=
  ⟨plain_put h.plain hkey hplain, Fields.nodup_keys_put h.nodup key v, h.within.2.put key hwithin⟩

theorem foldl_put {fs acc : List (String × Json)} (hacc : Kept acc) (hplain : Json.PlainFields fs)
    (hwithin : Json.WithinFields (depthLimit - 1) fs) :
    Kept (fs.foldl (fun acc f => Fields.put acc f.1 f.2) acc) := by
  induction fs generalizing acc with
  | nil => exact hacc
  | cons f fs ih =>
      obtain ⟨k, v⟩ := f
      obtain ⟨hk, hv, hfs⟩ := hplain
      exact ih (hacc.put hk hv hwithin.1) hfs hwithin.2

end Kept

/-! ## The place of the file -/

def place : Place := [".mention_state.json"]

theorem locate_file (t : Files) : t.locate file = .ok place := by
  have hwritten : Files.checkWritten file.text = .ok () := rfl
  have hsize : ¬ Files.nameLimit < Files.byteSize ".mention_state.json" := by decide
  rw [Files.locate, hwritten]
  change t.follow [] [".mention_state.json"] = .ok place
  have hhome : t.isFolder [] = true := rfl
  rw [Files.follow, if_pos hhome, if_neg hsize, if_neg (by decide)]
  rfl

theorem fileExists_file (w : World) :
    Act.fileExists file w = (.ok (w.files.holds place), w) := by
  have hexists : w.files.exists? file = .ok (w.files.holds place) := by
    rw [Files.exists?, locate_file]
  rw [Act.fileExists, Act.bind_of_ok (Act.get_apply w), hexists]
  rfl

theorem readFile_file {w : World} {s : String} (hfolder : w.files.isFolder place = false)
    (hs : w.files.text? place = some s) :
    Act.readFile file w = (.ok (String.ofList (Text.unifyLineEnds s.toList)), w) := by
  have hread : w.files.read file = .ok s := by
    rw [Files.read, locate_file]
    change w.files.readPlace place = .ok s
    rw [Files.readPlace, hfolder, hs]
    rfl
  rw [Act.readFile, Act.bind_of_ok (Act.get_apply w), hread]
  rfl

theorem writeFile_file {w : World} {s : String} (hfolder : w.files.isFolder place = false)
    (hs : Text.halves? s = none) :
    Act.writeFile file s w = (.ok (), { w with files := w.files.put place s }) := by
  have hwrite : w.files.write file s = .ok (w.files.put place s) := by
    rw [Files.write, locate_file]
    change (if w.files.isFolder place then _ else _) = _
    rw [hfolder]
    rfl
  rw [Act.writeFile_apply, hs]
  simp only [Option.isSome_none, Bool.false_eq_true, if_false, hwrite]

/-! ## What the file holds -/

/-- The file is absent, or its text is that of an object with these fields, all of whose values are
plain. -/
def Holds (t : Files) : Option (List (String × Json)) → Prop
  | none => t.holds place = false
  | some fs => t.isFolder place = false ∧ ∃ s, t.text? place = some s ∧
    Json.decode (String.ofList (Text.unifyLineEnds s.toList)) = .ok (.obj fs) ∧
    (Json.obj fs).Plain

theorem Holds.isFolder_eq_false {t : Files} {old : Option (List (String × Json))}
    (h : Holds t old) : t.isFolder place = false := by
  cases old with
  | none => exact (Bool.or_eq_false_iff.mp h).1
  | some fs => exact h.1

/-- The fields of a file can be kept; those of an absent one are none. -/
theorem Holds.kept {t : Files} {old : Option (List (String × Json))} (h : Holds t old) :
    Kept (old.getD []) := by
  cases old with
  | none => exact .nil
  | some fs =>
      obtain ⟨-, s, -, hdecode, hplain⟩ := h
      exact ⟨hplain, Json.within_of_decode hdecode⟩

theorem fileExists_of_holds {w : World} {old : Option (List (String × Json))}
    (h : Holds w.files old) : Act.fileExists file w = (.ok old.isSome, w) := by
  rw [fileExists_file]
  cases old with
  | none => rw [Holds] at h; rw [h]; rfl
  | some fs =>
      obtain ⟨-, s, hs, -, -⟩ := h
      rw [Files.holds, hs, Option.isSome_some, Bool.or_true]
      rfl

theorem contents_of_holds {w : World} {fs : List (String × Json)} (h : Holds w.files (some fs)) :
    contents w = (.ok (.obj fs), w) := by
  obtain ⟨hfolder, s, hs, hdecode, -⟩ := h
  rw [contents, Act.bind_of_ok (readFile_file hfolder hs), hdecode]
  rfl

/-- A load gives the value under its key, null when there is none, and nothing without a file. -/
theorem load_of_holds {w : World} {old : Option (List (String × Json))} (h : Holds w.files old)
    (key : String) :
    load key w = (.ok (old.map fun fs => (Fields.get? fs key).getD .null), w) := by
  rw [load, Act.bind_of_ok (fileExists_of_holds h)]
  cases old with
  | none => rfl
  | some fs =>
      rw [Option.isSome_some, if_pos rfl, Act.bind_of_ok (contents_of_holds h)]
      rfl

/-- Written fields that can be kept are held. -/
theorem holds_put_encode {t : Files} {fs : List (String × Json)} (hfs : Kept fs)
    (hfolder : t.isFolder place = false) : Holds (t.put place (Json.obj fs).encode) (some fs) := by
  have hprintable := Json.isPrintable_of_mem_encode (.obj fs)
  refine ⟨hfolder, (Json.obj fs).encode, ?_, ?_, hfs.plain⟩
  · rw [Files.text?, Files.put, Fields.get?_put, if_pos rfl]
  · have hreturn : '\r' ∉ (Json.obj fs).encode.toList := fun hc => by cases hprintable _ hc
    rw [Text.unifyLineEnds_of_not_mem hreturn, String.ofList_toList,
      Json.decode_encode hfs.plain hfs.within]

/-- Fields that can be kept are stored, and the file then holds them. -/
theorem store_of_kept {w : World} {fs : List (String × Json)} (hfs : Kept fs)
    (hfolder : w.files.isFolder place = false) :
    ∃ t, store (.obj fs) w = (.ok (), { w with files := t }) ∧ Holds t (some fs) := by
  have hhalves : Text.halves? (Json.obj fs).encode = none :=
    Text.firstHalves?_of_ascii _ fun c hc =>
      Json.toNat_lt_of_isPrintable (Json.isPrintable_of_mem_encode _ c hc)
  exact ⟨_, writeFile_file hfolder hhalves, holds_put_encode hfs hfolder⟩

/-! ## Saves -/

/-- After a save the file holds the saved value under its key and what it held under all others. -/
def Updated (old : Option (List (String × Json))) (key : String) (v : Json)
    (new : List (String × Json)) : Prop :=
  ∀ k, Fields.get? new k = if key = k then some v else Fields.get? (old.getD []) k

/-- A save that patches the file's object. -/
theorem save_of_holds {w : World} {old : Option (List (String × Json))} (h : Holds w.files old)
    {key : String} (hkey : Text.Sound key) {v : Json} (hv : Storable v) :
    ∃ t new, save key v w = (.ok (), { w with files := t }) ∧ Holds t (some new) ∧
      Updated old key v new := by
  have hkept := h.kept.put hkey hv.plain (hv.within _)
  obtain ⟨t, hstore, ht⟩ := store_of_kept hkept h.isFolder_eq_false
  refine ⟨t, Fields.put (old.getD []) key v, ?_, ht, fun k => Fields.get?_put _ _ _ _⟩
  rw [save, Act.bind_of_ok (fileExists_of_holds h)]
  cases old with
  | none => exact hstore
  | some fs =>
      rw [Option.isSome_some, if_pos rfl, Act.bind_of_ok (contents_of_holds h)]
      exact hstore

/-- Entries all of whose keys are texts. -/
def Entries.ofFields (fs : List (String × Json)) : Entries := fs.map fun f => (.str f.1, f.2)

theorem Entries.put_ofFields (fs : List (String × Json)) (key : String) (v : Json) :
    (ofFields fs).put (.str key) v = ofFields (Fields.put fs key v) := by
  induction fs with
  | nil => rfl
  | cons f fs ih =>
      obtain ⟨k, u⟩ := f
      have hsame : (Json.str k).sameKey (.str key) = (k == key) := by
        rw [Json.sameKey, Json.same]
        simp
      have hcons : ofFields ((k, u) :: fs) = (.str k, u) :: ofFields fs := rfl
      rw [hcons, Entries.put, hsame, Fields.put, ih]
      by_cases hk : k = key
      · simp [hk, ofFields]
      · simp [hk, ofFields]

theorem Entries.putAll_ofFields (acc fs : List (String × Json)) :
    (ofFields acc).putAll (.obj fs) =
      .ok (ofFields (fs.foldl (fun acc f => Fields.put acc f.1 f.2) acc)) := by
  rw [Entries.putAll]
  congr 1
  induction fs generalizing acc with
  | nil => rfl
  | cons f fs ih => rw [List.foldl_cons, List.foldl_cons, put_ofFields, ih]

theorem Entries.json_ofFields (fs : List (String × Json)) : (ofFields fs).json = .obj fs := by
  rw [Entries.json, ofFields, List.map_map]
  congr 1
  exact List.map_id'' (fun _ => rfl) fs

/-- A save that starts from its own key: the file's fields are put after it, and it once more after
them, so that it wins. -/
theorem saveFirst_of_holds {w : World} {old : Option (List (String × Json))}
    (h : Holds w.files old) {key : String} (hkey : Text.Sound key) {v : Json} (hv : Storable v) :
    ∃ t new, saveFirst key v w = (.ok (), { w with files := t }) ∧ Holds t (some new) ∧
      Updated old key v new := by
  have hown : Kept [(key, v)] := Kept.nil.put hkey hv.plain (hv.within _)
  have hmerged := hown.foldl_put h.kept.plain h.kept.within.2
  have hkept := hmerged.put hkey hv.plain (hv.within _)
  obtain ⟨t, hstore, ht⟩ := store_of_kept hkept h.isFolder_eq_false
  refine ⟨t, _, ?_, ht, fun k => ?_⟩
  · rw [← Entries.json_ofFields, ← Entries.put_ofFields] at hstore
    rw [saveFirst, Act.bind_of_ok (fileExists_of_holds h)]
    cases old with
    | none => exact hstore
    | some fs =>
        have hentries : Entries.putAll [(.str key, v)] (.obj fs) = _ :=
          Entries.putAll_ofFields [(key, v)] fs
        rw [Option.isSome_some, if_pos rfl, Act.bind_of_ok (contents_of_holds h), hentries]
        exact hstore
  · rw [Fields.get?_put, Fields.get?_foldl_put h.kept.nodup]
    split
    · rfl
    · next hk => rw [Fields.get?_cons, if_neg hk, Fields.get?_nil, Option.or_none]

end Mention.Cursor

end Persona
