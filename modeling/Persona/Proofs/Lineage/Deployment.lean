import Mathlib.Data.List.Nodup
import Persona.Proofs.Files.Names
import Persona.Proofs.Json.Comparing
import Persona.Proofs.Json.Limits
import Persona.Proofs.Lineage.Birth
import Persona.Proofs.Number.Quotients
import Persona.Proofs.World.Interruption

/-!
# Deployment

A member whose settings allow it prepares its children one after the other. Each gets a folder with
the settings of the member, written on indented lines, and nothing else is touched. Read again from
there, the settings are those of the member.

Main statement: `deploy_propagates`.
-/

namespace Persona

/-! ## Lines and files -/

namespace World

theorem Undisturbed.withFiles {w : World} {lines : Nat} (h : w.Undisturbed lines)
    (files : Files) : (w.withFiles files).Undisturbed lines := h

theorem files_saying (w : World) (lines : List String) : (w.saying lines).files = w.files := by
  induction lines generalizing w with
  | nil => rfl
  | cons line lines ih => exact ih (w.logging .info line)

/-- Lines and files are changed apart from each other. -/
theorem withFiles_saying (w : World) (lines : List String) (files : Files) :
    (w.saying lines).withFiles files = (w.withFiles files).saying lines := by
  induction lines generalizing w with
  | nil => rfl
  | cons line lines ih => exact ih (w.logging .info line)

theorem saying_append (w : World) (lines more : List String) :
    w.saying (lines ++ more) = (w.saying lines).saying more := List.foldl_append

end World

/-- What is written on indented lines has bytes, so it can be put into a file. -/
theorem Json.halves?_encodeIndented (v : Json) : Text.halves? v.encodeIndented = none := by
  refine Text.firstHalves?_of_ascii _ fun c hc => ?_
  rcases isPrintable_or_of_mem_encodeIndented v c hc with hc | rfl
  · exact toNat_lt_of_isPrintable hc
  · decide

namespace Lineage

/-! ## How many children -/

theorem bounded_int {share most : Int} (h : share ≤ most) :
    bounded share (.int most) = .int (max share 1) := by
  have hless : (Json.Sign.less).holds (compare most share) = false := by
    rw [Json.Sign.holds, beq_eq_false_iff_ne, ne_eq, compare_lt_iff_lt]
    omega
  have hgreater : (Json.Sign.greater).holds (compare share 1) = decide (1 < share) := by
    rw [Json.Sign.holds, Bool.eq_iff_iff, beq_iff_eq, compare_gt_iff_gt, decide_eq_true_eq]
  unfold bounded
  simp only [Json.compares_int, hless, Except.toOption, Option.getD_some, Bool.false_eq_true,
    if_false, hgreater, decide_eq_true_eq]
  split
  · rw [max_eq_left (by omega)]
  · rw [max_eq_right (by omega)]

/-- The quotient of whole numbers that are not too large has a whole part. -/
theorem wholePart_dividedBy {num den : Nat} (hden : den ≠ 0) (hle : num ≤ 2 ^ 53) :
    ((Json.int num).dividedBy (.int den) >>= Fault.wholePart) = .ok ((num / den : Nat) : Int) := by
  have hcut := Number.cut_ofRatio hden hle
  have hdivide : Quantity.divide (.whole num) (.whole den) =
      .ok (Number.ofRatio false num den) := by
    have hsign : (decide ((num : Int) < 0) != decide ((den : Int) < 0)) = false := by
      rw [decide_eq_false (by omega), decide_eq_false (by omega)]
      rfl
    rw [Quantity.divide, if_neg (by simpa using hden)]
    simp only [hsign, Int.natAbs_natCast, Number.isInfinite_of_cut hcut]
    rfl
  change ((Quantity.divide (.whole num) (.whole den)).mapError Fault.calculation >>= _) = _
  rw [hdivide]
  change Fault.wholePart _ = _
  rw [Fault.wholePart, hcut]
  rfl

/-- A member has as many children as it is allowed, divided by the number of the next generation,
and at least one. -/
theorem childCount_int {settings : Json} {allowed : Nat} (g : Nat)
    (hallowed : settings.fieldOr "max_children_per_generation" (.int 2) = .ok (.int allowed))
    (hle : allowed ≤ 2 ^ 53) :
    childCount settings (.int g) = .ok (.int (max (allowed / (g + 1)) 1 : Nat)) := by
  have hplus : (Json.int g).plus (.int 1) = .ok (.int (g + 1 : Nat)) := rfl
  have hshare := wholePart_dividedBy (Nat.succ_ne_zero g) hle
  have hbounded : bounded (allowed / (g + 1) : Nat) (.int allowed) =
      .int (max (allowed / (g + 1)) 1 : Nat) := by
    rw [bounded_int (mod_cast Nat.div_le_self allowed (g + 1)), Nat.cast_max, Nat.cast_one]
  rw [childCount, hallowed]
  change ((Json.int g).plus (.int 1) >>= fun next => (Json.int allowed).dividedBy next >>= fun x =>
    Fault.wholePart x >>= fun share => pure (bounded share (.int allowed))) = _
  rw [hplus]
  change ((Json.int allowed).dividedBy (.int (g + 1 : Nat)) >>= fun x =>
    Fault.wholePart x >>= fun share => pure (bounded share (.int allowed))) = _
  rw [← bind_assoc, hshare, ← hbounded]
  rfl

/-! ## The names of children -/

open Number (natText)

theorem text_int (n : Nat) : (Json.int n).text = natText n := by
  change Number.intText n = natText n
  rw [Number.intText, if_neg (by omega), Int.natAbs_natCast]

/-- The folder of a child. -/
def childFolder (generation index : Nat) : String :=
  "phi_gen_" ++ (natText generation ++ "_" ++ natText index)

/-- The place of a child's settings. -/
def childPlace (generation index : Nat) : Place := [childFolder generation index, "config.json"]

/-- The name of a child that is prepared in a second. -/
def childId (generation : Nat) (second : Int) (index : Nat) : String :=
  "PHI-" ++ natText generation ++ "-" ++ natText index ++ "-" ++ Number.intText second

theorem childFolder_injective (generation : Nat) :
    Function.Injective (childFolder generation) := by
  intro i j h
  apply Json.natText_injective
  simpa [childFolder, ← String.toList_inj] using h

theorem childId_injective (generation : Nat) (second : Int) :
    Function.Injective (childId generation second) := by
  intro i j h
  apply Json.natText_injective
  simpa [childId, ← String.toList_inj] using h

/-- Nothing is in the way of a child: its folder can have its name, which no text has, and no folder
is where its settings go. -/
structure Vacant (t : Files) (generation index : Nat) : Prop where
  fits : Files.byteSize (childFolder generation index) ≤ Files.nameLimit
  noText : t.text? [childFolder generation index] = none
  noFolder : t.isFolder (childPlace generation index) = false

theorem mem_childFolder {generation index : Nat} {c : Char}
    (hc : c ∈ (childFolder generation index).toList) :
    c ∈ "phi_gen_".toList ∨ Json.isAsciiDigit c = true := by
  simp only [childFolder, String.toList_append, List.mem_append] at hc
  rcases hc with hc | (hc | hc) | hc
  · exact .inl hc
  · exact .inr (Json.isAsciiDigit_of_mem_natText generation c hc)
  · rw [List.mem_singleton.mp hc]
    exact .inl (by decide)
  · exact .inr (Json.isAsciiDigit_of_mem_natText index c hc)

theorem plainName_childFolder {generation index : Nat}
    (hfits : Files.byteSize (childFolder generation index) ≤ Files.nameLimit) :
    Files.PlainName (childFolder generation index) := by
  have hlength : 8 ≤ (childFolder generation index).toList.length := by
    simp [childFolder, String.toList_append]
  refine ⟨fun c hc => ?_, fun hc => ?_, ?_, ?_, ?_, hfits⟩
  · rcases mem_childFolder hc with hc | hc
    · exact List.all_eq_true.mp (by decide) c hc
    · exact Json.isPrintable_of_isAsciiDigit hc
  · rcases mem_childFolder hc with hc | hc
    · exact absurd hc (by decide)
    · cases hc
  all_goals
    intro h
    rw [h] at hlength
    exact absurd hlength (by decide)

theorem plainName_config : Files.PlainName "config.json" where
  printable := List.all_eq_true.mp (by decide)
  noSlash := by decide
  notEmpty := by decide
  notHere := by decide
  notAbove := by decide
  fits := by decide

/-! ## The files of children -/

/-- The files after a child was prepared. -/
def withChild (settings : String) (generation : Nat) (t : Files) (index : Nat) : Files :=
  (t.addFolder [childFolder generation index]).put (childPlace generation index) settings

section

variable {settings : String} {generation index : Nat} {t : Files}

theorem text?_withChild (place : Place) :
    (withChild settings generation t index).text? place =
      if childPlace generation index = place then some settings else t.text? place := by
  rw [withChild, Files.text?_put, Files.text?_addFolder]

theorem isFolder_withChild (place : Place) :
    (withChild settings generation t index).isFolder place = true ↔
      t.isFolder place = true ∨ [childFolder generation index] = place := by
  rw [withChild, Files.isFolder_put, Files.isFolder_addFolder]

/-- Preparing a child puts nothing in the way of another. -/
theorem Vacant.withChild {other : Nat} (h : Vacant t generation other) :
    Vacant (withChild settings generation t index) generation other := by
  refine ⟨h.fits, ?_, ?_⟩
  · rw [text?_withChild, if_neg (by simp [childPlace])]
    exact h.noText
  · rw [Bool.eq_false_iff, ne_eq, isFolder_withChild, h.noFolder]
    simp [childPlace]

theorem text?_foldl_of_ne {indices : List Nat} {place : Place}
    (h : ∀ i ∈ indices, childPlace generation i ≠ place) :
    (indices.foldl (withChild settings generation) t).text? place = t.text? place := by
  induction indices generalizing t with
  | nil => rfl
  | cons i indices ih =>
      rw [List.foldl_cons, ih fun j hj => h j (List.mem_cons_of_mem i hj), text?_withChild,
        if_neg (h i List.mem_cons_self)]

/-- Every child gets the settings. -/
theorem text?_foldl_of_mem {indices : List Nat} (hmem : index ∈ indices) :
    (indices.foldl (withChild settings generation) t).text? (childPlace generation index) =
      some settings := by
  induction indices generalizing t with
  | nil => cases hmem
  | cons i indices ih =>
      by_cases hlater : index ∈ indices
      · exact ih hlater
      · obtain rfl : index = i := (List.mem_cons.mp hmem).resolve_right hlater
        have hother : ∀ j ∈ indices, childPlace generation j ≠ childPlace generation index := by
          intro j hj hsame
          exact hlater (childFolder_injective generation (List.cons.inj hsame).1 ▸ hj)
        rw [List.foldl_cons, text?_foldl_of_ne hother, text?_withChild, if_pos rfl]

theorem isFolder_foldl {indices : List Nat} (place : Place) :
    (indices.foldl (withChild settings generation) t).isFolder place = true ↔
      t.isFolder place = true ∨ ∃ i ∈ indices, [childFolder generation i] = place := by
  induction indices generalizing t with
  | nil => simp
  | cons i indices ih => rw [List.foldl_cons, ih, isFolder_withChild, or_assoc,
      List.exists_mem_cons_iff]

end

/-! ## Preparing children -/

/-- What is logged about a child that is prepared. -/
def childLines (generation : Nat) (second : Int) (count : String) (index : Nat) : List String :=
  ["Child " ++ childId generation second index ++ " prepared in " ++ childFolder generation index,
    "Successfully spawned child " ++ natText (index + 1) ++ "/" ++ count ++ ": " ++
      childId generation second index]

namespace Member

variable {m : Member} {w : World} {generation index : Nat}

theorem info_undisturbed {lines : Nat} (h : w.Undisturbed (lines + 1)) (m : Member)
    (message : String) : info message m w = ((.ok (), m), w.logging .info message) :=
  ActOn.lift_of_eq (Act.log_of_undisturbed h .info message)

theorem prepareChild_vacant (hvacant : Vacant w.files generation index)
    (hsettings : Text.halves? m.settings.encodeIndented = none) {lines : Nat}
    (hlog : w.Undisturbed (lines + 1)) :
    prepareChild (.int generation) (.int index) m w =
      ((.ok (childId generation w.clock.wholeSecond index), m),
        (w.withFiles (withChild m.settings.encodeIndented generation w.files index)).logging .info
          ("Child " ++ childId generation w.clock.wholeSecond index ++ " prepared in " ++
            childFolder generation index)) := by
  have hname := plainName_childFolder hvacant.fits
  have hfolder : "phi_gen_" ++ (natText generation ++ "_" ++ natText index) =
    childFolder generation index := rfl
  have hinside : (w.files.addFolder [childFolder generation index]).isFolder
      [childFolder generation index] = true :=
    (Files.isFolder_addFolder _ _ _).mpr (.inr rfl)
  have hplace : (w.files.addFolder [childFolder generation index]).isFolder
      (childPlace generation index) = false := by
    rw [Bool.eq_false_iff, ne_eq, Files.isFolder_addFolder, hvacant.noFolder]
    simp [childPlace]
  have hwrite : Act.writeFile ((Path.ofText (childFolder generation index)).join "config.json")
      m.settings.encodeIndented (w.withFiles (w.files.addFolder [childFolder generation index])) =
        (.ok (), w.withFiles (withChild m.settings.encodeIndented generation w.files index)) :=
    Act.writeFile_within hname plainName_config hinside hplace hsettings
  have hnow (w : World) : now m w = ((.ok w.clock, m), w) := rfl
  unfold prepareChild
  rw [ActOn.bind_of_ok (ActOn.get_apply m w)]
  simp only [text_int, hfolder]
  rw [ActOn.bind_lift_of_ok (Act.makeFolder_name hname hvacant.noText),
    ActOn.bind_lift_of_ok hwrite, ActOn.bind_of_ok (hnow _), hname.text_ofText]
  exact ActOn.bind_of_ok (info_undisturbed (hlog.withFiles _) m _)

/-- A child that nothing is in the way of is prepared and joins the others. -/
theorem raiseChild_vacant (hvacant : Vacant w.files generation index)
    (hsettings : Text.halves? m.settings.encodeIndented = none) {lines : Nat}
    (hlog : w.Undisturbed (lines + 2)) (count : Json) :
    raiseChild (.int generation) count index m w =
      ((.ok (), { m with
          children := m.children ++ [childId generation w.clock.wholeSecond index] }),
        (w.withFiles (withChild m.settings.encodeIndented generation w.files index)).saying
          (childLines generation w.clock.wholeSecond count.text index)) := by
  have hprepare := prepareChild_vacant hvacant hsettings hlog
  refine ActOn.recover_of_ok ?_
  rw [ActOn.bind_of_ok hprepare, ActOn.bind_of_ok (ActOn.modify_apply _ _ _)]
  exact info_undisturbed ((hlog.withFiles _).logging _ _) _ _

/-- Children that nothing is in the way of are prepared in order. -/
theorem raiseChildren_vacant {left : Nat} (count : Json)
    (hvacant : ∀ i ∈ List.range' index left, Vacant w.files generation i)
    (hsettings : Text.halves? m.settings.encodeIndented = none)
    (hlog : w.Undisturbed (2 * left)) :
    raiseChildren (.int generation) count left index m w =
      ((.ok (), { m with children := m.children ++
          (List.range' index left).map (childId generation w.clock.wholeSecond) }),
        (w.withFiles ((List.range' index left).foldl
            (withChild m.settings.encodeIndented generation) w.files)).saying
          ((List.range' index left).flatMap
            (childLines generation w.clock.wholeSecond count.text))) := by
  induction left generalizing index m w with
  | zero =>
      rw [List.range'_zero, List.map_nil, List.append_nil]
      rfl
  | succ left ih =>
      have hlog' : w.Undisturbed (2 * left + 2) := hlog
      rw [List.range'_succ] at hvacant ⊢
      have hfirst := raiseChild_vacant (hvacant index List.mem_cons_self) hsettings hlog' count
      rw [raiseChildren, ActOn.bind_of_ok hfirst]
      refine (ih ?_ ?_ ?_).trans ?_
      · intro i hi
        rw [World.files_saying]
        exact (hvacant i (List.mem_cons_of_mem index hi)).withChild
      · exact hsettings
      · exact ((hlog'.withFiles _).logging _ _).logging _ _
      · rw [World.files_saying, World.withFiles_saying, World.clock_saying,
          ← World.saying_append, List.foldl_cons, List.flatMap_cons, List.map_cons,
          List.append_assoc, List.singleton_append]
        rfl

/-! ## Deployment -/

theorem setting_ok {key : String} {fallback v : Json}
    (h : m.settings.fieldOr key fallback = .ok v) (w : World) :
    setting key fallback m w = ((.ok v, m), w) := by
  rw [setting, ActOn.bind_of_ok (ActOn.get_apply m w), h]
  rfl

/-- What is logged by a deployment. -/
def deploymentLines (generation count : Nat) (second : Int) : List String :=
  ("Deploying " ++ natText count ++ " child instances (Generation " ++ natText generation ++ ")") ::
    (List.range' 0 count).flatMap (childLines generation second (natText count))

theorem deploy_vacant {g count : Nat} {most : Int} {enabled : Json}
    (hg : m.generation = .int g)
    (henabled : m.settings.fieldOr "recursive_deploy" (.bool false) = .ok enabled)
    (htruthy : enabled.truthy = true)
    (hmost : m.settings.fieldOr "max_generations" (.int 3) = .ok (.int most)) (hlt : g < most)
    (hdigits : g + 1 < Number.tenPow Text.digitLimit)
    (hcount : childCount m.settings m.generation = .ok (.int count)) (hpos : 0 < count)
    (hvacant : ∀ i ∈ List.range' 0 count, Vacant w.files (g + 1) i)
    (hsettings : Text.halves? m.settings.encodeIndented = none)
    (hlog : w.Undisturbed (2 * count + 1)) :
    deploy m w =
      ((.ok true, { m with children := m.children ++
          (List.range' 0 count).map (childId (g + 1) w.clock.wholeSecond) }),
        (w.withFiles ((List.range' 0 count).foldl
            (withChild m.settings.encodeIndented (g + 1)) w.files)).saying
          (deploymentLines (g + 1) count w.clock.wholeSecond)) := by
  have hnext : m.generation.plus (.int 1) = .ok (.int (g + 1 : Nat)) := by rw [hg]; rfl
  have hbelow : Json.compares .atLeast m.generation (.int most) = .ok false := by
    rw [hg, Json.compares_int, Json.Sign.holds, compare_lt_iff_lt.mpr hlt]
    rfl
  have hshown : Act.shown (.int (g + 1 : Nat)) w = (.ok (natText (g + 1)), w) := by
    rw [Act.shown, if_neg (by rw [Int.natAbs_natCast]; omega), text_int]
    rfl
  have hraise := raiseChildren_vacant (m := m) (w := w.logging .info
    ("Deploying " ++ natText count ++ " child instances (Generation " ++ natText (g + 1) ++ ")"))
    (.int count) hvacant hsettings (hlog.logging _ _)
  rw [text_int] at hraise
  have hsome : (!(m.children ++ (List.range' 0 count).map
      (childId (g + 1) w.clock.wholeSecond)).isEmpty) = true := by
    obtain ⟨count, rfl⟩ := Nat.exists_eq_add_of_le' hpos
    simp [List.range'_succ]
  unfold deploy
  rw [ActOn.bind_of_ok (setting_ok henabled w), if_pos htruthy,
    ActOn.bind_of_ok (setting_ok hmost w), ActOn.bind_of_ok (ActOn.get_apply m w), hbelow,
    ActOn.bind_lift_of_ok (Act.look_ok false w), if_neg Bool.false_ne_true, hnext,
    ActOn.bind_lift_of_ok (Act.ofExcept_ok _ w), hcount,
    ActOn.bind_lift_of_ok (Act.ofExcept_ok _ w), ActOn.bind_lift_of_ok hshown, text_int,
    ActOn.bind_of_ok (info_undisturbed hlog m _)]
  refine (ActOn.bind_of_ok hraise).trans ?_
  change ((Except.ok (!(m.children ++ (List.range' 0 count).map
    (childId (g + 1) w.clock.wholeSecond)).isEmpty), _), _) = _
  rw [hsome]
  rfl

end Member

/-! ## Settings that are handed on -/

/-- Settings under which a member of generation `g` has children: an object without doubles that is
not too deep, with deployment enabled, a greatest generation above `g` and a number of children that
is allowed. -/
structure Permits (settings : Json) (g allowed : Nat) : Prop where
  plain : settings.Plain
  within : settings.Within 99
  enabled : ∃ v, settings.fieldOr "recursive_deploy" (.bool false) = .ok v ∧ v.truthy = true
  generations : ∃ most : Int,
    settings.fieldOr "max_generations" (.int 3) = .ok (.int most) ∧ g < most
  children : settings.fieldOr "max_children_per_generation" (.int 2) = .ok (.int allowed)
  one_le : 1 ≤ allowed
  allowed_le : allowed ≤ 2 ^ 53

/-- How many children a member of generation `g` has. -/
def broodSize (g allowed : Nat) : Nat := max (allowed / (g + 1)) 1

namespace Permits

variable {settings : Json} {g allowed : Nat}

theorem within_depthLimit (h : Permits settings g allowed) : settings.Within Json.depthLimit :=
  h.within.mono (by decide)

theorem halves?_eq_none (_ : Permits settings g allowed) :
    Text.halves? settings.encodeIndented = none := Json.halves?_encodeIndented settings

/-- The number of the next generation is not above one in the settings, so it can be shown. -/
theorem succ_lt_tenPow (h : Permits settings g allowed) :
    g + 1 < Number.tenPow Text.digitLimit := by
  obtain ⟨most, hmost, hlt⟩ := h.generations
  have hlimit := Json.natAbs_lt_of_fieldOr h.within hmost
    (Nat.lt_of_lt_of_le (by decide : 3 < Number.tenPow 1)
      (Number.tenPow_le_tenPow (by decide)))
  omega

/-- The settings are read from a file to which they were written. -/
theorem loadSettings_written (h : Permits settings g allowed) {v : World} {generation index : Nat}
    (hname : Files.PlainName (childFolder generation index))
    (hinside : v.files.isFolder [childFolder generation index] = true)
    (hplace : v.files.isFolder (childPlace generation index) = false)
    (htext : v.files.text? (childPlace generation index) = some settings.encodeIndented) :
    loadSettings (.str (childFolder generation index ++ "/" ++ "config.json")) v =
      (.ok settings, v) := by
  obtain ⟨hexists, hread⟩ :=
    Act.readWritten_within hname plainName_config hinside hplace htext
  have hreturn : '\r' ∉ settings.encodeIndented.toList := fun hc => by
    rcases Json.isPrintable_or_of_mem_encodeIndented _ _ hc with hc | hc
    · cases hc
    · exact absurd hc (by decide)
  rw [Text.unifyLineEnds_of_not_mem hreturn, String.ofList_toList] at hread
  have hnames : namesFile (.str (childFolder generation index ++ "/" ++ "config.json")) v =
    (.ok true, v) := hexists
  refine Act.recover_of_ok ?_
  rw [readSettings, Act.bind_of_ok hnames, if_pos rfl, Json.text, Act.bind_of_ok hread,
    Json.decode_encodeIndented h.plain h.within_depthLimit]
  rfl

end Permits

/-- After a deployment: of the world only the log and the files have changed; each child's file
holds the settings and every other text is what it was; the children's folders are the only new
ones; and whoever loads a child's file gets the settings. A child is born with them, and unless it
is interrupted or its number cannot be shown, it is born. -/
structure Propagated (settings : Json) (generation count : Nat) (w w' : World) : Prop where
  rest : ∃ lines, w' = (w.withFiles w'.files).saying lines
  written : ∀ i < count, w'.files.text? (childPlace generation i) = some settings.encodeIndented
  kept : ∀ place, (∀ i < count, place ≠ childPlace generation i) →
    w'.files.text? place = w.files.text? place
  folders : ∀ place, w'.files.isFolder place = true ↔
    w.files.isFolder place = true ∨ ∃ i < count, place = [childFolder generation i]
  loads : ∀ i < count, ∀ v : World, v.files = w'.files →
    loadSettings (.str (childFolder generation i ++ "/" ++ "config.json")) v = (.ok settings, v)
  births : ∀ i < count, ∀ (v v' : World) (hasPsyche : Bool) (number : Json) (child : Member),
    v.files = w'.files →
    birth hasPsyche (.str (childFolder generation i ++ "/" ++ "config.json")) number v =
      (.ok child, v') → child.settings = settings
  thrive : ∀ i < count, ∀ (v : World) (hasPsyche : Bool) (number : Int),
    v.files = w'.files → v.Undisturbed 3 → (Json.int number).isShowable = true →
    ∃ child v', birth hasPsyche (.str (childFolder generation i ++ "/" ++ "config.json"))
      (.int number) v = (.ok child, v') ∧ child.settings = settings

theorem propagated_foldl {settings : Json} {g allowed count generation : Nat} {w : World}
    (hpermits : Permits settings g allowed)
    (hvacant : ∀ i < count, Vacant w.files generation i) (lines : List String) :
    Propagated settings generation count w
      ((w.withFiles ((List.range' 0 count).foldl
        (withChild settings.encodeIndented generation) w.files)).saying lines) := by
  have hfiles := World.files_saying (w.withFiles ((List.range' 0 count).foldl
    (withChild settings.encodeIndented generation) w.files)) lines
  have hmem (i : Nat) : i ∈ List.range' 0 count ↔ i < count := by simp [List.mem_range'_1]
  have hload : ∀ i < count, ∀ v : World, v.files = (List.range' 0 count).foldl
      (withChild settings.encodeIndented generation) w.files →
      loadSettings (.str (childFolder generation i ++ "/" ++ "config.json")) v =
        (.ok settings, v) := by
    intro i hi v hv
    refine hpermits.loadSettings_written (plainName_childFolder (hvacant i hi).fits) ?_ ?_ ?_
    · rw [hv, isFolder_foldl]
      exact .inr ⟨i, (hmem i).mpr hi, rfl⟩
    · rw [hv, Bool.eq_false_iff, ne_eq, isFolder_foldl, (hvacant i hi).noFolder]
      simp [childPlace]
    · rw [hv]
      exact text?_foldl_of_mem ((hmem i).mpr hi)
  constructor
  case rest => exact ⟨lines, by rw [hfiles]; rfl⟩
  case written =>
    intro i hi
    rw [hfiles]
    exact text?_foldl_of_mem ((hmem i).mpr hi)
  case kept =>
    intro place hplace
    rw [hfiles]
    exact text?_foldl_of_ne fun i hi => (hplace i ((hmem i).mp hi)).symm
  case folders =>
    intro place
    rw [hfiles]
    refine (isFolder_foldl place).trans (or_congr_right ?_)
    simp only [hmem, @eq_comm _ place]
  case loads => exact fun i hi v hv => hload i hi v (hv.trans hfiles)
  case births => exact fun i hi v v' _ _ _ hv => settings_of_birth (hload i hi v (hv.trans hfiles))
  case thrive =>
    intro i hi v hasPsyche number hv hlog hnumber
    have hlines : v.Undisturbed (0 + 3) := hlog
    obtain ⟨child, v', hbirth, hsettings, -, -⟩ :=
      exists_birth hasPsyche (hload i hi v (hv.trans hfiles)) hnumber hlines
    exact ⟨child, v', hbirth, hsettings⟩

namespace Member

/-- A member whose settings permit it, with nothing in the way of its children, deploys them: it
reports so, its children get their names in order, no two the same, and each of them has its
settings in a file of its own, while nothing else is touched. -/
theorem deploy_propagates (m : Member) (w : World) (g allowed : Nat)
    (hg : m.generation = .int g) (hpermits : Permits m.settings g allowed)
    (hvacant : ∀ i < broodSize g allowed, Vacant w.files (g + 1) i)
    (hlog : w.Undisturbed (2 * broodSize g allowed + 1)) :
    ∃ ids w', childCount m.settings m.generation = .ok (.int (broodSize g allowed)) ∧
      deploy m w = ((.ok true, { m with children := m.children ++ ids }), w') ∧
      ids = (List.range (broodSize g allowed)).map (childId (g + 1) w.clock.wholeSecond) ∧
      ids.Nodup ∧ Propagated m.settings (g + 1) (broodSize g allowed) w w' := by
  have hcount : childCount m.settings m.generation = .ok (.int (broodSize g allowed)) := by
    rw [hg]
    exact childCount_int g hpermits.children hpermits.allowed_le
  obtain ⟨enabled, henabled, htruthy⟩ := hpermits.enabled
  obtain ⟨most, hmost, hlt⟩ := hpermits.generations
  have hdeploy := deploy_vacant hg henabled htruthy hmost hlt hpermits.succ_lt_tenPow hcount
    (Nat.le_max_right _ _) (fun i hi => hvacant i (by simpa [List.mem_range'_1] using hi))
    hpermits.halves?_eq_none hlog
  rw [← List.range_eq_range'] at hdeploy
  refine ⟨_, _, hcount, hdeploy, rfl, ?_, ?_⟩
  · exact List.nodup_range.map (childId_injective (g + 1) w.clock.wholeSecond)
  · rw [List.range_eq_range']
    exact propagated_foldl hpermits hvacant _

/-- A member of the second generation with a child already. -/
def mother : Member where
  generation := .int 1
  settings := .obj [("max_generations", .int 3), ("max_children_per_generation", .int 5),
    ("recursive_deploy", .bool true), ("notes", .arr [.str "two\nlines", .obj [], .null])]
  id := "mother"
  children := ["PHI-2-0-1"]
  born := ⟨0⟩
  psyche := none

/-- A world with the file of a former child and one of something else. -/
def nursery : World where
  clock := ⟨0⟩
  draws := ⟨[], 0⟩
  files :=
    { texts := [(["phi_gen_2_0", "config.json"], "old"), (["notes.txt"], "kept")]
      folders := [["phi_gen_2_0"]] }

theorem mother_permits : Permits mother.settings 1 5 := by
  have hsound {s : String} (h : Text.mark ∉ s.toList) : Text.Sound s := Text.sound_of_not_mem_mark h
  have hdigit {n : Int} (h : n.natAbs < 10) : n.natAbs < Number.tenPow Text.digitLimit :=
    Nat.lt_of_lt_of_le h (Number.tenPow_le_tenPow (k := 1) (by decide))
  constructor
  case plain =>
    exact ⟨hsound (by decide), trivial, hsound (by decide), trivial, hsound (by decide), trivial,
      hsound (by decide), ⟨hsound (by decide), trivial, trivial, trivial⟩, trivial⟩
  case within =>
    exact ⟨by decide, hdigit (by decide), hdigit (by decide), trivial,
      ⟨trivial, ⟨List.nodup_nil, trivial⟩, trivial, trivial⟩, trivial⟩
  case enabled => exact ⟨.bool true, rfl, rfl⟩
  case generations => exact ⟨3, rfl, by decide⟩
  case children => rfl
  case one_le => decide
  case allowed_le => decide

/-- Two children are prepared, one of them in the place of a former one. -/
theorem deploy_propagates_nursery :
    Permits mother.settings 1 5 ∧ (∀ i < 2, Vacant nursery.files 2 i) ∧ nursery.Undisturbed 5 ∧
      ∃ ids w', deploy mother nursery =
          ((.ok true, { mother with children := mother.children ++ ids }), w') ∧
        ids.length = 2 ∧ Propagated mother.settings 2 2 nursery w' := by
  have hvacant : ∀ i < 2, Vacant nursery.files 2 i := by
    intro i hi
    interval_cases i
    · exact ⟨by decide +kernel, by decide +kernel, by decide +kernel⟩
    · exact ⟨by decide +kernel, by decide +kernel, by decide +kernel⟩
  have hlog : nursery.Undisturbed 5 := by decide
  obtain ⟨ids, w', -, hdeploy, hids, -, hpropagated⟩ :=
    deploy_propagates mother nursery 1 5 rfl mother_permits hvacant hlog
  exact ⟨mother_permits, hvacant, hlog, ids, w', hdeploy, by rw [hids]; rfl, hpropagated⟩

end Member

end Lineage

end Persona
