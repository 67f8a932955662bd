import Persona.Proofs.Lineage.Startup

/-!
# How many children are added

A deployment that is enabled and not too late raises a generation: it counts the children and
prepares them one after the other. Whatever happens on the way, it adds no more of them than it
counted. The count is kept within the most children allowed and is then raised to one, so it stays
within them exactly if they are at least one. A member that may have no children has one all the
same, unless the folder of the child cannot have its name.

Main statement: `Member.children_within_most_iff`.
-/

namespace Persona

theorem Act.of_ofExcept_eq_ok {α : Type} {r : Except Fault α} {a : α} {w w' : World}
    (h : (MonadExcept.ofExcept r : Act α) w = (.ok a, w')) : r = .ok a ∧ w = w' := by
  cases r with
  | error f => cases h
  | ok b =>
      cases h
      exact ⟨rfl, rfl⟩

namespace Files

/-- A path of a single name that is too long leads nowhere. -/
theorem locate_of_long (t : Files) {name : String} (hslash : '/' ∉ name.toList) (hempty : name ≠ "")
    (hdot : name ≠ ".") (hlong : nameLimit < byteSize name) :
    ∃ cause, t.locate (Path.ofText name) = .error cause := by
  rw [locate, Path.ofText_name hslash hempty hdot]
  cases checkWritten (Path.mk .here [name]).text with
  | error cause => exact ⟨cause, rfl⟩
  | ok _ =>
      refine ⟨.nameTooLong, ?_⟩
      change t.follow [] [name] = _
      rw [follow, if_pos (isFolder_nil t), if_pos hlong]

end Files

theorem Act.makeFolder_of_not_located {w : World} {p : Path} {cause : Files.Cause}
    (h : w.files.locate p = .error cause) : ∃ f, makeFolder p w = (.error f, w) := by
  have hmake : w.files.makeFolder p = .error cause := by
    rw [Files.makeFolder, h]
    rfl
  have hkeep : w.files.keepFolder p cause = .error (cause, p) := by
    rw [Files.keepFolder, h]
  rw [makeFolder, bind_of_ok (get_apply w)]
  simp only [hmake, hkeep]
  exact ⟨_, rfl⟩

namespace Lineage

/-! ## The count -/

/-- The bounds of a share, the lower one last. -/
theorem bounded_int_eq (share most : Int) :
    bounded share (.int most) = .int (max (min share most) 1) := by
  have holds (n : Int) : Json.Sign.less.holds (compare most n) = decide (most < n) := by
    rw [Json.Sign.holds, Bool.eq_iff_iff, beq_iff_eq, compare_lt_iff_lt, decide_eq_true_eq]
  rcases lt_or_ge most share with hlt | hle
  · have hcapped : bounded share (.int most) = bounded most (.int most) := by
      unfold bounded
      simp only [Json.compares_int, holds, hlt, Int.lt_irrefl, decide_true, decide_false,
        Except.toOption, Option.getD_some, Bool.false_eq_true, if_true, if_false]
    rw [hcapped, bounded_int (Int.le_refl most), min_eq_right hlt.le]
  · rw [bounded_int hle, min_eq_left hle]

/-- A count of children is at least one, and within the most allowed if they are at least one. -/
theorem childCount_bounds {settings count : Json} {g : Int} {allowed : Nat}
    (hallowed : settings.fieldOr "max_children_per_generation" (.int 2) = .ok (.int allowed))
    (hcount : childCount settings (.int g) = .ok count) :
    ∃ n : Nat, count = .int n ∧ 1 ≤ n ∧ n ≤ max allowed 1 := by
  rw [childCount_eq g hallowed] at hcount
  obtain ⟨x, -, hcount⟩ := Outcome.of_bind_eq_ok hcount
  obtain ⟨share, -, hcount⟩ := Outcome.of_bind_eq_ok hcount
  rw [bounded_int_eq] at hcount
  refine ⟨(max (min share allowed) 1).toNat, ?_, by omega, by omega⟩
  rw [← Except.ok.inj hcount, Int.toNat_of_nonneg (by omega)]

namespace Member

variable {m : Member} {w : World} {fields : List (String × Json)}

/-! ## The stages of a deployment -/

/-- What is left of a deployment once nothing forbids it. -/
def raise : Life Bool := do
  let m : Member ← get
  let next ← (MonadExcept.ofExcept (m.generation.plus (.int 1)) : Act Json)
  let count ← (MonadExcept.ofExcept (childCount m.settings m.generation) : Act Json)
  let nextText ← (Act.shown next : Act String)
  info ("Deploying " ++ count.text ++ " child instances (Generation " ++ nextText ++ ")")
  match count.whole? with
  | some n => raiseChildren next count n.toNat 0
  | none => throw (.mismatch (.notACount count.kindName))
  let m : Member ← get
  return !m.children.isEmpty

theorem setting_entry (hsettings : m.settings = .obj fields) (key : String) (fallback : Json)
    (w : World) : setting key fallback m w = ((.ok (entry fields key fallback), m), w) :=
  setting_ok (by rw [hsettings]; rfl) w

theorem deploy_of_disabled (hsettings : m.settings = .obj fields)
    (h : (entry fields "recursive_deploy" (.bool false)).truthy = false) (w : World) :
    deploy m w = (do info "Recursive deployment disabled in config"; return false : Life Bool) m w
    := by
  unfold deploy
  rw [ActOn.bind_of_ok (setting_entry hsettings "recursive_deploy" (.bool false) w), h,
    if_neg Bool.false_ne_true]

section Enabled

variable (hsettings : m.settings = .obj fields)
  (henabled : (entry fields "recursive_deploy" (.bool false)).truthy = true)

include hsettings henabled

theorem deploy_of_reached
    (h : Json.compares .atLeast m.generation (entry fields "max_generations" (.int 3)) = .ok true)
    (w : World) :
    deploy m w = (do
      info ("Maximum generation (" ++ (entry fields "max_generations" (.int 3)).text ++
        ") reached, stopping recursion")
      return false : Life Bool) m w := by
  unfold deploy
  rw [ActOn.bind_of_ok (setting_entry hsettings "recursive_deploy" (.bool false) w),
    if_pos henabled, ActOn.bind_of_ok (setting_entry hsettings "max_generations" (.int 3) w),
    ActOn.bind_of_ok (ActOn.get_apply m w), h, ActOn.bind_lift_of_ok (Act.look_ok true w),
    if_pos rfl]

theorem deploy_of_below
    (h : Json.compares .atLeast m.generation (entry fields "max_generations" (.int 3)) = .ok false)
    (w : World) : deploy m w = raise m w := by
  unfold deploy
  rw [ActOn.bind_of_ok (setting_entry hsettings "recursive_deploy" (.bool false) w),
    if_pos henabled, ActOn.bind_of_ok (setting_entry hsettings "max_generations" (.int 3) w),
    ActOn.bind_of_ok (ActOn.get_apply m w), h, ActOn.bind_lift_of_ok (Act.look_ok false w),
    if_neg Bool.false_ne_true]
  unfold raise
  refine Eq.trans ?_ (ActOn.bind_of_ok (ActOn.get_apply m w)).symm
  rfl

theorem deploy_of_incomparable {e : Mismatch}
    (h : Json.compares .atLeast m.generation (entry fields "max_generations" (.int 3)) = .error e)
    (w : World) : deploy m w = ((.error (.mismatch e), m), w) := by
  unfold deploy
  rw [ActOn.bind_of_ok (setting_entry hsettings "recursive_deploy" (.bool false) w),
    if_pos henabled, ActOn.bind_of_ok (setting_entry hsettings "max_generations" (.int 3) w),
    ActOn.bind_of_ok (ActOn.get_apply m w), h]
  exact ActOn.bind_lift_of_error (w := w) rfl

end Enabled

/-! ## Additions -/

/-- A member has got at most so many children more and is else what it was. -/
def Added (n : Nat) (m m' : Member) : Prop :=
  ∃ ids : List String, m' = { m with children := m.children ++ ids } ∧ ids.length ≤ n

theorem Added.none (n : Nat) (m : Member) : Added n m m :=
  ⟨[], by rw [List.append_nil], Nat.zero_le n⟩

theorem Added.trans {a b : Nat} {m m' m'' : Member} (h : Added a m m') (h' : Added b m' m'') :
    Added (a + b) m m'' := by
  obtain ⟨ids, rfl, hids⟩ := h
  obtain ⟨more, rfl, hmore⟩ := h'
  refine ⟨ids ++ more, by rw [List.append_assoc], ?_⟩
  rw [List.length_append]
  omega

/-- However it ends, an activity adds at most so many children. -/
def Adds {α : Type} (n : Nat) (x : Life α) : Prop := ∀ m w, Added n m (x m w).1.2

namespace Adds

variable {α β : Type}

theorem steady {x : Life α} (hx : x.Steady) : Adds 0 x := by
  intro m w
  rw [hx m w]
  exact .none 0 m

theorem bind {a b : Nat} {x : Life α} {f : α → Life β} (hx : Adds a x) (hf : ∀ r, Adds b (f r)) :
    Adds (a + b) (x >>= f) := by
  intro m w
  have hfirst := hx m w
  rcases hrun : x m w with ⟨⟨r, m'⟩, w'⟩
  rw [hrun] at hfirst
  cases r with
  | error e =>
      rw [ActOn.bind_of_error hrun]
      exact hfirst.trans (.none b m')
  | ok r =>
      rw [ActOn.bind_of_ok hrun]
      exact hfirst.trans (hf r m' w')

theorem recover {n : Nat} {x : Life α} {handler : Fault → Life α} (hx : Adds n x)
    (hhandler : ∀ f, (handler f).Steady) : Adds n (Persona.recover x handler) := by
  intro m w
  rw [ActOn.recover_state hhandler]
  exact hx m w

end Adds

theorem prepareChild_steady (generation index : Json) : (prepareChild generation index).Steady :=
  .bind .get fun _ => .bind (.lift _) fun _ => .bind (.lift _) fun _ => .bind (.lift _) fun _ =>
    .bind (.lift _) fun _ => .pure _

/-- A turn adds one child, or none after a failure. -/
theorem raiseChild_adds (generation count : Json) (index : Nat) :
    Adds 1 (raiseChild generation count index) := by
  refine .recover (.bind (b := 1) (.steady (prepareChild_steady _ _)) fun id => ?_) fun f => .lift _
  have hjoin : Adds 1 (modify fun m : Member => { m with children := m.children ++ [id] }) :=
    fun m w => ⟨[id], rfl, Nat.le_refl 1⟩
  exact hjoin.bind fun _ => .steady (.lift _)

theorem raiseChildren_adds (generation count : Json) (left index : Nat) :
    Adds left (raiseChildren generation count left index) := by
  induction left generalizing index with
  | zero =>
      rw [raiseChildren]
      exact .steady (.pure ())
  | succ left ih =>
      rw [raiseChildren, Nat.add_comm]
      exact (raiseChild_adds generation count index).bind fun _ => ih (index + 1)

/-- A look at something leaves the member alone. -/
theorem added_bind_lift {α β : Type} {n : Nat} {x : Act α} {f : α → Life β}
    (hf : ∀ a w', x w = (.ok a, w') → Added n m (f a m w').1.2) :
    Added n m ((liftM x >>= f) m w).1.2 := by
  rcases hrun : x w with ⟨r, w'⟩
  cases r with
  | error e =>
      rw [ActOn.bind_lift_of_error hrun]
      exact .none n m
  | ok a =>
      rw [ActOn.bind_lift_of_ok hrun]
      exact hf a w' hrun

/-- Raising a generation adds what raising the children that are counted adds. -/
theorem raise_added {n : Nat}
    (h : ∀ next count k w, m.generation.plus (.int 1) = .ok next →
      childCount m.settings m.generation = .ok count → count.whole? = some k →
      Added n m (raiseChildren next count k.toNat 0 m w).1.2) :
    Added n m (raise m w).1.2 := by
  unfold raise
  rw [ActOn.bind_of_ok (ActOn.get_apply m w)]
  refine added_bind_lift fun next w₁ hnext => added_bind_lift fun count w₂ hcount => ?_
  refine added_bind_lift fun nextText w₃ _ => added_bind_lift fun _ w₄ _ => ?_
  have hend : ActOn.Steady (do let m : Member ← get; return !m.children.isEmpty : Life Bool) :=
    .bind .get fun _ => .pure _
  cases hwhole : count.whole? with
  | none => exact .none n m
  | some k =>
      dsimp only
      rw [ActOn.bind_state fun _ => hend]
      exact h next count k w₄ (Act.of_ofExcept_eq_ok hnext).1
        (Act.of_ofExcept_eq_ok hcount).1 hwhole

/-! ## Children without a folder -/

/-- A failed beginning is all that is left of an activity whose handler leaves the state alone. -/
theorem recover_bind_state {α β : Type} {x : Life α} {f : α → Life β} {handler : Fault → Life β}
    {e : Fault} {m' : Member} {w' : World} (h : x m w = ((.error e, m'), w'))
    (hhandler : ∀ f, (handler f).Steady) : (recover (x >>= f) handler m w).1.2 = m' := by
  rw [ActOn.recover_state hhandler, ActOn.bind_of_error h]

/-- A folder whose name is too long is not made, and then there is no child. -/
theorem raiseChild_unnamable {generation index : Nat}
    (h : Files.nameLimit < Files.byteSize (childFolder generation index)) (count : Json) :
    (raiseChild (.int generation) count index).Steady := by
  intro m w
  have hlength : 8 ≤ (childFolder generation index).toList.length := by
    simp [childFolder, String.toList_append]
  have hslash : '/' ∉ (childFolder generation index).toList := fun hc => by
    rcases mem_childFolder hc with hc | hc
    · exact absurd hc (by decide)
    · cases hc
  have hempty : childFolder generation index ≠ "" := fun hname => by
    rw [hname] at hlength
    exact absurd hlength (by decide)
  have hdot : childFolder generation index ≠ "." := fun hname => by
    rw [hname] at hlength
    exact absurd hlength (by decide)
  obtain ⟨cause, hlocate⟩ := w.files.locate_of_long hslash hempty hdot h
  obtain ⟨f, hmake⟩ := Act.makeFolder_of_not_located hlocate
  have hprepare : prepareChild (.int generation) (.int index) m w = ((.error f, m), w) := by
    unfold prepareChild
    rw [ActOn.bind_of_ok (ActOn.get_apply m w)]
    simp only [text_int]
    exact ActOn.bind_lift_of_error hmake
  rw [raiseChild, recover_bind_state hprepare]
  exact fun _ => .lift _

theorem raiseChildren_unnamable {generation index : Nat}
    (h : Files.nameLimit < Files.byteSize (childFolder generation index)) (count : Json) :
    (raiseChildren (.int generation) count 1 index).Steady := by
  rw [raiseChildren, raiseChildren]
  exact .bind (raiseChild_unnamable h count) fun _ => .pure ()

/-- A name that is not too long has room for few digits only. -/
theorem lt_tenPow_of_fits {generation index : Nat} (hpos : 0 < generation)
    (h : Files.byteSize (childFolder generation index) ≤ Files.nameLimit) :
    generation < Number.tenPow Text.digitLimit := by
  have hsize : Files.byteSize (childFolder generation index) =
      (childFolder generation index).toList.length :=
    Files.byteSize_of_isPrintable (plainName_childFolder h).printable
  have hdigits : (Number.digitsOf generation).length ≤ 255 := by
    rw [hsize] at h
    simp only [childFolder, String.toList_append, List.length_append, Json.natText_of_pos hpos,
      List.length_map] at h
    exact Nat.le_trans (by omega) h
  exact Nat.lt_of_lt_of_le (Number.length_digitsOf_le_iff.mp hdigits)
    (Number.tenPow_le_tenPow (by decide))

/-! ## The most allowed -/

/-- A single child that nothing is in the way of is raised. -/
theorem raise_single {g : Nat} (hg : m.generation = .int g)
    (hcount : childCount m.settings m.generation = .ok (.int 1))
    (hvacant : Vacant w.files (g + 1) 0) (hlog : w.Undisturbed 3) :
    (raise m w).1.2.children = m.children ++ [childId (g + 1) w.clock.wholeSecond 0] := by
  have hnext : m.generation.plus (.int 1) = .ok (.int (g + 1 : Nat)) := by rw [hg]; rfl
  have hdigits := lt_tenPow_of_fits (Nat.succ_pos g) hvacant.fits
  have hshown : Act.shown (.int (g + 1 : Nat)) w = (.ok (Number.natText (g + 1)), w) := by
    rw [Act.shown, if_neg (by rw [Int.natAbs_natCast]; omega), text_int]
    rfl
  have hone : (Json.int 1).whole? = some 1 := rfl
  have hraise (v : World) (hvacant : Vacant v.files (g + 1) 0) (hlog : v.Undisturbed 2) :
      ∃ v', raiseChildren (.int (g + 1 : Nat)) (.int 1) 1 0 m v = ((.ok (), { m with
        children := m.children ++ [childId (g + 1) v.clock.wholeSecond 0] }), v') :=
    ⟨_, raiseChildren_vacant (.int 1) (fun i hi => by rw [List.mem_singleton.mp hi]; exact hvacant)
      (Json.halves?_encodeIndented m.settings) hlog⟩
  unfold raise
  rw [ActOn.bind_of_ok (ActOn.get_apply m w), hnext, ActOn.bind_lift_of_ok (Act.ofExcept_ok _ w),
    hcount, ActOn.bind_lift_of_ok (Act.ofExcept_ok _ w), ActOn.bind_lift_of_ok hshown,
    ActOn.bind_of_ok (info_undisturbed hlog m _), hone]
  obtain ⟨w', hrun⟩ := hraise (w.logging .info _) hvacant (hlog.logging _ _)
  dsimp only
  rw [show (1 : Int).toNat = 1 from rfl, ActOn.bind_of_ok hrun,
    ActOn.bind_of_ok (ActOn.get_apply _ _)]
  rfl

/-- A world without files, where nobody interrupts. -/
def clearing : World where
  clock := ⟨0⟩
  draws := ⟨[], 0⟩
  limits := { logs := 0 }

theorem vacant_clearing {generation index : Nat}
    (h : Files.byteSize (childFolder generation index) ≤ Files.nameLimit) :
    Vacant clearing.files generation index where
  fits := h
  noText := rfl
  noFolder := by simp [Files.isFolder, clearing, childPlace]

/-- A member that has no children yet. -/
def childless (generation settings : Json) : Member where
  generation := generation
  settings := settings
  id := "childless"
  born := ⟨0⟩
  psyche := none

/-- Where no child is allowed, one is counted all the same. -/
theorem childCount_of_none_allowed {settings : Json}
    (h : settings.fieldOr "max_children_per_generation" (.int 2) = .ok (.int 0)) (g : Nat) :
    childCount settings (.int g) = .ok (.int 1) := by
  rw [childCount_int g h (Nat.zero_le _), Nat.zero_div]
  rfl

theorem raise_within {g allowed : Nat} (hg : m.generation = .int g)
    (hmost : m.settings.fieldOr "max_children_per_generation" (.int 2) = .ok (.int allowed))
    (hone : 1 ≤ allowed) : Added allowed m (raise m w).1.2 := by
  refine raise_added fun next count k w' _ hcount hk => ?_
  rw [hg] at hcount
  obtain ⟨n, rfl, -, hn⟩ := childCount_bounds hmost hcount
  obtain rfl := Option.some.inj hk
  obtain ⟨ids, hids, hlength⟩ := raiseChildren_adds next (.int n) n 0 m w'
  exact ⟨ids, hids, by omega⟩

theorem raise_unnamable {g : Nat} (hg : m.generation = .int g)
    (hmost : m.settings.fieldOr "max_children_per_generation" (.int 2) = .ok (.int 0))
    (hlong : Files.nameLimit < Files.byteSize (childFolder (g + 1) 0)) :
    Added 0 m (raise m w).1.2 := by
  refine raise_added fun next count k w' hnext hcount hk => ?_
  rw [hg] at hnext hcount
  obtain rfl : Json.int (g + 1 : Nat) = next := Except.ok.inj hnext
  rw [childCount_of_none_allowed hmost] at hcount
  obtain rfl := Except.ok.inj hcount
  obtain rfl := Option.some.inj hk
  have hsteady := raiseChildren_unnamable hlong (.int 1)
  rw [show (1 : Int).toNat = 1 from rfl, hsteady m w']
  exact .none 0 m

/-- Where no child is allowed but the first one can have a folder, there is a child too many. -/
theorem raise_beyond {g : Nat} {settings : Json}
    (hmost : settings.fieldOr "max_children_per_generation" (.int 2) = .ok (.int 0))
    (hfits : Files.byteSize (childFolder (g + 1) 0) ≤ Files.nameLimit) :
    ¬ Added 0 (childless (.int g) settings) (raise (childless (.int g) settings) clearing).1.2 := by
  rintro ⟨ids, hids, hlength⟩
  have hsingle := raise_single (m := childless (.int g) settings) (w := clearing) rfl
    (childCount_of_none_allowed hmost g) (vacant_clearing hfits) (.inl (Int.le_refl 0))
  rw [hids] at hsingle
  have hlengths := congrArg List.length (List.append_cancel_left hsingle)
  rw [List.length_singleton] at hlengths
  omega

/-- A member with enabled deployment, below the greatest generation, adds no more children than the
most it is allowed exactly if they are at least one, or its first child cannot have a folder. -/
theorem children_within_most_iff (fields : List (String × Json)) (g allowed : Nat)
    (henabled : (entry fields "recursive_deploy" (.bool false)).truthy = true)
    (hbelow : Json.compares .atLeast (.int g) (entry fields "max_generations" (.int 3)) = .ok false)
    (hallowed : entry fields "max_children_per_generation" (.int 2) = .int allowed) :
    (∀ (m : Member) (w : World), m.generation = .int g → m.settings = .obj fields →
      Added allowed m (deploy m w).1.2) ↔
    1 ≤ allowed ∨ Files.nameLimit < Files.byteSize (childFolder (g + 1) 0) := by
  have hmost : (Json.obj fields).fieldOr "max_children_per_generation" (.int 2) =
      .ok (.int allowed) := congrArg Except.ok hallowed
  constructor
  · intro hwithin
    by_contra hnot
    rw [not_or, not_lt, not_le, Nat.lt_one_iff] at hnot
    obtain ⟨rfl, hfits⟩ := hnot
    have hadded := hwithin (childless (.int g) (.obj fields)) clearing rfl rfl
    rw [deploy_of_below rfl henabled hbelow] at hadded
    exact raise_beyond hmost hfits hadded
  · intro hbound m w hg hsettings
    rw [deploy_of_below hsettings henabled (hg ▸ hbelow)]
    by_cases hone : 1 ≤ allowed
    · exact raise_within hg (hsettings ▸ hmost) hone
    · obtain rfl : allowed = 0 := by omega
      exact raise_unnamable hg (hsettings ▸ hmost) (hbound.resolve_left hone)

/-- The entries of the mother's settings. -/
def motherEntries : List (String × Json) :=
  [("max_generations", .int 3), ("max_children_per_generation", .int 5),
    ("recursive_deploy", .bool true), ("notes", .arr [.str "two\nlines", .obj [], .null])]

/-- Whatever happens, no more than five children are added where five are allowed. -/
theorem children_within_most_mother :
    mother.settings = .obj motherEntries ∧ ∀ w, Added 5 mother (deploy mother w).1.2 :=
  ⟨rfl, fun w => (children_within_most_iff motherEntries 1 5 rfl rfl rfl).mpr (.inl (by decide))
    mother w rfl rfl⟩

/-- A founder that may have no children, in a world without files, has one afterwards. -/
theorem child_beyond_most :
    let founder := childless (.int 0) (.obj [("max_generations", .int 1),
      ("max_children_per_generation", .int 0), ("recursive_deploy", .bool true)])
    (deploy founder clearing).1.1.toOption = some true ∧
      (deploy founder clearing).1.2.children = ["PHI-1-0-0"] ∧
      ¬ Added 0 founder (deploy founder clearing).1.2 := by
  intro founder
  obtain ⟨hanswer, hchildren⟩ : (deploy founder clearing).1.1.toOption = some true ∧
      (deploy founder clearing).1.2.children = ["PHI-1-0-0"] := by decide +kernel
  refine ⟨hanswer, hchildren, ?_⟩
  rintro ⟨ids, hids, hlength⟩
  rw [hids, List.eq_nil_of_length_eq_zero (Nat.le_zero.mp hlength)] at hchildren
  cases hchildren

end Member

end Lineage

end Persona
