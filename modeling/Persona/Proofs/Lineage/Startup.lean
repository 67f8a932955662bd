import Persona.Proofs.Lineage.Deployment
import Persona.Proofs.Lineage.Inward
import Persona.Proofs.Lineage.Sharing
import Persona.Proofs.World.Effects

/-!
# Starting up

A member is born whatever its settings file holds: what cannot be read is replaced by the default
settings. What can be read is taken as it is, and is looked at only when the member deploys. Then an
answer needs settings that are an object, limits that are numbers, and a share of the children that
has a whole part.

Main statement: `startup_answers_iff`.
-/

namespace Persona

namespace Lineage

/-! ## Settings that give an answer -/

/-- A setting, or the value it has when it is missing. -/
def entry (fields : List (String × Json)) (key : String) (fallback : Json) : Json :=
  (Fields.get? fields key).getD fallback

/-- The entries of an object give an answer to a member of generation `g` that deploys: if they
enable deployment, the greatest generation is a number; and unless `g` reaches it, the children can
be shared out in the next generation, whose number is not too long to be shown. -/
def Answering (fields : List (String × Json)) (g : Int) : Prop :=
  (entry fields "recursive_deploy" (.bool false)).truthy = true →
    ∃ most, (entry fields "max_generations" (.int 3)).quantity? = some most ∧
      (((Quantity.whole g).compare? most).any (· != .lt) = false →
        (∃ q, (entry fields "max_children_per_generation" (.int 2)).quantity? = some q ∧
          Shareable q (g + 1)) ∧
        (g + 1).natAbs < Number.tenPow Text.digitLimit)

end Lineage

/-! ## Activities that end with a value -/

namespace World

theorem Unattended.of_wakeful {w w' : World} (h : w.Unattended) (hwakeful : Wakeful w w') :
    w'.Unattended := by
  have hlogged := hwakeful.logged
  unfold Unattended at h ⊢
  rw [hwakeful.limits]
  omega

theorem Unattended.of_leads {α : Type} {x : Act α} {w w' : World} {r : Except Fault α}
    (h : w.Unattended) (hx : x.Leads Wakeful) (hrun : x w = (r, w')) : w'.Unattended := by
  have hwakeful := hx w
  rw [hrun] at hwakeful
  exact h.of_wakeful hwakeful

theorem Unattended.logging {w : World} (h : w.Unattended) (severity : Severity)
    (message : String) : (w.logging severity message).Unattended := by
  have hlogged : (w.logging severity message).logged = w.logged + 1 := rfl
  have hlimits : (w.logging severity message).limits = w.limits := rfl
  unfold Unattended at h ⊢
  rw [hlogged, hlimits]
  omega

end World

theorem Act.log_unattended {w : World} (h : w.Unattended) (severity : Severity) (message : String) :
    Act.log severity message w = (.ok (), w.logging severity message) :=
  Act.log_of_undisturbed (Or.inl h : w.Undisturbed (0 + 1)) severity message

theorem Act.makeFolder_recoverable (p : Path) : (Act.makeFolder p).Recoverable := by
  intro w w' e h
  unfold Act.makeFolder at h
  rw [Act.bind_of_ok (Act.get_apply w)] at h
  cases hmake : w.files.makeFolder p with
  | ok files =>
      rw [hmake] at h
      cases h
  | error c =>
      rw [hmake] at h
      dsimp only at h
      cases hkeep : w.files.keepFolder p c with
      | ok files =>
          rw [hkeep] at h
          cases h
      | error cause =>
          rw [hkeep] at h
          cases h
          exact Act.Filing.isFailure_fileFault _ _

namespace ActOn

variable {σ α β : Type} {s s' : σ} {w w' : World}

/-- From a state and a world, an activity ends with a value. -/
def Answers (x : ActOn σ α) (s : σ) (w : World) : Prop := ∃ a s' w', x s w = ((.ok a, s'), w')

theorem answers_bind {x : ActOn σ α} {f : α → ActOn σ β} {a : α}
    (h : x s w = ((.ok a, s'), w')) : (x >>= f).Answers s w ↔ (f a).Answers s' w' := by
  rw [Answers, bind_of_ok h, Answers]

theorem not_answers_bind {x : ActOn σ α} {f : α → ActOn σ β} {e : Fault}
    (h : x s w = ((.error e, s'), w')) : ¬ (x >>= f).Answers s w := by
  rintro ⟨b, s'', w'', hrun⟩
  rw [bind_of_error h] at hrun
  cases hrun

end ActOn

namespace Lineage

namespace Member

variable {m : Member} {w : World}

theorem info_unattended (h : w.Unattended) (m : Member) (message : String) :
    info message m w = ((.ok (), m), w.logging .info message) :=
  ActOn.lift_of_eq (Act.log_unattended h .info message)

/-- A child is prepared, or there is a failure. -/
theorem prepareChild_cases (generation index : Json) (m : Member) (h : w.Unattended) :
    ∃ r w', prepareChild generation index m w = ((r, m), w') ∧ w'.Unattended ∧
      ∀ f, r = .error f → f.isFailure = true := by
  unfold prepareChild
  rw [ActOn.bind_of_ok (ActOn.get_apply m w)]
  dsimp only
  generalize Path.ofText ("phi_gen_" ++ (generation.text ++ "_" ++ index.text)) = folder
  rcases hmake : Act.makeFolder folder w with ⟨r, w₁⟩
  have hw₁ : w₁.Unattended := h.of_leads (Act.leads_makeFolder folder) hmake
  cases r with
  | error f =>
      rw [ActOn.bind_lift_of_error hmake]
      refine ⟨_, _, rfl, hw₁, fun f' hf => ?_⟩
      cases hf
      exact Act.makeFolder_recoverable folder w w₁ f hmake
  | ok u =>
      rw [ActOn.bind_lift_of_ok hmake]
      rcases hwrite : Act.writeFile (folder.join "config.json") m.settings.encodeIndented w₁ with
        ⟨r, w₂⟩
      have hw₂ : w₂.Unattended := hw₁.of_leads (Act.leads_writeFile _ _) hwrite
      cases r with
      | error f =>
          rw [ActOn.bind_lift_of_error hwrite]
          refine ⟨_, _, rfl, hw₂, fun f' hf => ?_⟩
          cases hf
          exact (Act.Filing.writeFile _ _).recoverable w₁ w₂ f hwrite
      | ok u =>
          have hnow : now m w₂ = ((.ok w₂.clock, m), w₂) := rfl
          rw [ActOn.bind_lift_of_ok hwrite, ActOn.bind_of_ok hnow,
            ActOn.bind_of_ok (info_unattended hw₂ m _)]
          exact ⟨_, _, rfl, hw₂.logging .info _, fun f hf => by cases hf⟩

/-- Whether or not it can be prepared, the next child follows. -/
theorem raiseChild_answers (generation count : Json) (index : Nat) (m : Member)
    (h : w.Unattended) :
    ∃ m' w', raiseChild generation count index m w = ((.ok (), m'), w') ∧ w'.Unattended := by
  obtain ⟨r, w₁, hprepare, hw₁, hfailure⟩ := prepareChild_cases generation (.int index) m h
  cases r with
  | ok id =>
      refine ⟨{ m with children := m.children ++ [id] },
        w₁.logging .info ("Successfully spawned child " ++ Number.natText (index + 1) ++ "/" ++
          count.text ++ ": " ++ id), ActOn.recover_of_ok ?_, hw₁.logging .info _⟩
      rw [ActOn.bind_of_ok hprepare, ActOn.bind_of_ok (ActOn.modify_apply _ _ _)]
      exact info_unattended hw₁ _ _
  | error f =>
      refine ⟨m, w₁.logging .error ("Failed to spawn child " ++ Number.natText (index + 1) ++
        ": " ++ f.message), ?_, hw₁.logging .error _⟩
      refine (ActOn.recover_of_failure (ActOn.bind_of_error hprepare) (hfailure f rfl)).trans ?_
      exact ActOn.lift_of_eq (Act.log_unattended hw₁ .error _)

theorem raiseChildren_answers (generation count : Json) (left index : Nat) (m : Member)
    (h : w.Unattended) :
    ∃ m' w', raiseChildren generation count left index m w = ((.ok (), m'), w') := by
  induction left generalizing index m w with
  | zero => exact ⟨m, w, rfl⟩
  | succ left ih =>
      obtain ⟨m₁, w₁, hfirst, hw₁⟩ := raiseChild_answers generation count index m h
      rw [raiseChildren, ActOn.bind_of_ok hfirst]
      exact ih (index + 1) m₁ hw₁

/-- A refusal is an answer. -/
theorem refusal_answers (message : String) (m : Member) (h : w.Unattended) :
    ActOn.Answers (do info message; return false : Life Bool) m w := by
  rw [ActOn.answers_bind (info_unattended h m message)]
  exact ⟨false, m, _, rfl⟩

/-- The children are raised, in whatever number, if their share and the number of the next
generation can be told. -/
theorem raising_answers_iff {g : Int} {most : Json}
    (hmost : m.settings.fieldOr "max_children_per_generation" (.int 2) = .ok most)
    (h : w.Unattended) :
    ActOn.Answers (do
      let count ← (MonadExcept.ofExcept (childCount m.settings (.int g)) : Act Json)
      let nextText ← (Act.shown (.int (g + 1)) : Act String)
      info ("Deploying " ++ count.text ++ " child instances (Generation " ++ nextText ++ ")")
      match count.whole? with
      | some n => raiseChildren (.int (g + 1)) count n.toNat 0
      | none => throw (.mismatch (.notACount count.kindName))
      let m : Member ← get
      return !m.children.isEmpty : Life Bool) m w ↔
        (∃ q, most.quantity? = some q ∧ Shareable q (g + 1)) ∧
          (g + 1).natAbs < Number.tenPow Text.digitLimit := by
  by_cases hshare : ∃ q, most.quantity? = some q ∧ Shareable q (g + 1)
  · obtain ⟨q, hq, hshare'⟩ := hshare
    obtain ⟨count, n, hcount, hn⟩ := exists_childCount hmost hq hshare'
    rw [hcount, ActOn.answers_bind (ActOn.lift_of_eq (Act.ofExcept_ok count w)),
      and_iff_right ⟨q, hq, hshare'⟩]
    by_cases hdigits : (g + 1).natAbs < Number.tenPow Text.digitLimit
    · have hshown : Act.shown (.int (g + 1)) w = (.ok (Json.int (g + 1)).text, w) := by
        rw [Act.shown, if_neg (not_le.mpr hdigits)]
        rfl
      rw [ActOn.answers_bind (ActOn.lift_of_eq hshown),
        ActOn.answers_bind (info_unattended h m _), hn]
      obtain ⟨m', w', hraise⟩ := raiseChildren_answers (.int (g + 1)) count n.toNat 0 m
        (h.logging .info ("Deploying " ++ count.text ++ " child instances (Generation " ++
          (Json.int (g + 1)).text ++ ")"))
      refine iff_of_true ?_ hdigits
      exact (ActOn.answers_bind hraise).mpr ⟨_, _, _, rfl⟩
    · have hshown : Act.shown (.int (g + 1)) w = (.error .tooManyDigits, w) := by
        rw [Act.shown, if_pos (not_lt.mp hdigits)]
        rfl
      exact iff_of_false (ActOn.not_answers_bind (ActOn.lift_of_eq hshown)) hdigits
  · refine iff_of_false ?_ fun hanswers => hshare hanswers.1
    cases hcount : childCount m.settings (.int g) with
    | ok count => exact absurd (shareable_of_childCount hmost hcount) hshare
    | error f => exact ActOn.not_answers_bind (ActOn.lift_of_eq rfl)

/-- With an object for its settings, a member that deploys gets an answer exactly if the entries
give one. -/
theorem deploy_answers_iff {g : Int} {fields : List (String × Json)} (hg : m.generation = .int g)
    (hsettings : m.settings = .obj fields) (h : w.Unattended) :
    deploy.Answers m w ↔ Answering fields g := by
  have hsetting (key : String) (fallback : Json) :
      setting key fallback m w = ((.ok (entry fields key fallback), m), w) :=
    setting_ok (by rw [hsettings]; rfl) w
  have hnext : (Json.int g).plus (.int 1) = .ok (.int (g + 1)) := rfl
  unfold deploy Answering
  rw [ActOn.answers_bind (hsetting "recursive_deploy" (.bool false))]
  by_cases henabled : (entry fields "recursive_deploy" (.bool false)).truthy = true
  case neg =>
    rw [if_neg henabled]
    exact iff_of_true (refusal_answers _ m h) fun henabled' => absurd henabled' henabled
  rw [if_pos henabled, ActOn.answers_bind (hsetting "max_generations" (.int 3)),
    ActOn.answers_bind (ActOn.get_apply m w), hg, forall_prop_of_true henabled]
  cases hmost : (entry fields "max_generations" (.int 3)).quantity? with
  | none =>
      have hcompares := Json.compares_of_isSome_ne (a := .int g)
        (by rw [hmost]; exact Bool.false_ne_true.symm) .atLeast
      rw [hcompares]
      refine iff_of_false (ActOn.not_answers_bind (ActOn.lift_of_eq rfl)) ?_
      rintro ⟨most, hsome, -⟩
      cases hsome
  | some most =>
      have hcompares : Json.compares .atLeast (.int g) (entry fields "max_generations" (.int 3)) =
          .ok (((Quantity.whole g).compare? most).any (· != .lt)) :=
        Json.compares_of_quantity? rfl hmost .atLeast
      rw [hcompares, ActOn.answers_bind (ActOn.lift_of_eq (Act.look_ok _ w))]
      simp only [Option.some.injEq, exists_eq_left']
      cases hreached : ((Quantity.whole g).compare? most).any (· != .lt) with
      | true =>
          rw [if_pos rfl]
          exact iff_of_true (refusal_answers _ m h) fun hless => by cases hless
      | false =>
          rw [if_neg Bool.false_ne_true, hnext,
            ActOn.answers_bind (ActOn.lift_of_eq (Act.ofExcept_ok _ w)), forall_prop_of_true rfl]
          exact raising_answers_iff (by rw [hsettings]; rfl) h

/-- Without an object for its settings, a member that deploys fails at the first of them. -/
theorem deploy_of_not_obj (hsettings : ∀ fields, m.settings ≠ .obj fields) (w : World) :
    deploy m w = ((.error (.mismatch (.noAttribute m.settings.kindName "get")), m), w) := by
  have hfield : m.settings.fieldOr "recursive_deploy" (.bool false) =
      .error (.noAttribute m.settings.kindName "get") := by
    cases h : m.settings with
    | obj fields => exact absurd h (hsettings fields)
    | _ => rfl
  have hsetting : setting "recursive_deploy" (.bool false) m w =
      ((.error (.mismatch (.noAttribute m.settings.kindName "get")), m), w) := by
    rw [setting, ActOn.bind_of_ok (ActOn.get_apply m w), hfield]
    rfl
  exact ActOn.bind_of_error hsetting

end Member

/-! ## Birth -/

/-- The settings that a file with some content stands for. -/
def settingsIn (content : String) : Json :=
  (Json.decode (String.ofList (Text.unifyLineEnds content.toList))).toOption.getD defaultSettings

theorem locateWritten_config (t : Files) : t.locateWritten "config.json" = .ok ["config.json"] := by
  have hreach : t.reach (Path.ofText "config.json") = .ok ["config.json"] := by
    rw [plainName_config.ofText]
    exact plainName_config.follow_cons (Files.isFolder_nil t) []
  have hcheck : Files.checkWritten "config.json" = .ok () := by decide
  have hends : (Text.endsWith "config.json" "/" || Text.endsWith "config.json" "/.") = false := by
    decide
  rw [Files.locateWritten, hcheck, hreach, hends]
  rfl

variable {w : World}

/-- Whatever the settings file holds, there are settings. -/
theorem loadSettings_config {content : String}
    (hfile : w.files.text? ["config.json"] = some content)
    (hfolder : w.files.isFolder ["config.json"] = false) (h : w.Unattended) :
    ∃ w', loadSettings (.str "config.json") w = (.ok (settingsIn content), w') ∧
      w'.Unattended := by
  have hnames : namesFile (.str "config.json") w = (.ok true, w) := by
    change Act.existsWritten "config.json" w = _
    rw [Act.existsWritten, Act.bind_of_ok (Act.get_apply w), locateWritten_config]
    simp only [Files.holds, hfile, Option.isSome_some, Bool.or_true]
    rfl
  have hread : Act.readWritten "config.json" w =
      (.ok (String.ofList (Text.unifyLineEnds content.toList)), w) := by
    have hplace : (w.files.locateWritten "config.json" >>= w.files.readPlace) = .ok content := by
      rw [locateWritten_config]
      change w.files.readPlace ["config.json"] = _
      rw [Files.readPlace, hfolder, hfile]
      rfl
    rw [Act.readWritten, Act.bind_of_ok (Act.get_apply w), hplace]
    rfl
  have hsettings : readSettings (.str "config.json") w =
      ((Json.decode (String.ofList (Text.unifyLineEnds content.toList))).mapError Fault.decoding,
        w) := by
    rw [readSettings, Act.bind_of_ok hnames, if_pos rfl, Json.text, Act.bind_of_ok hread]
    cases Json.decode (String.ofList (Text.unifyLineEnds content.toList)) <;> rfl
  unfold settingsIn
  cases hdecode : Json.decode (String.ofList (Text.unifyLineEnds content.toList)) with
  | ok v =>
      rw [hdecode] at hsettings
      exact ⟨w, Act.recover_of_ok hsettings, h⟩
  | error e =>
      rw [hdecode] at hsettings
      refine ⟨w.logging .error ("Error loading config: " ++ (Fault.decoding e).message), ?_,
        h.logging .error _⟩
      refine (Act.recover_of_failure hsettings rfl).trans ?_
      exact Act.bind_of_ok (Act.log_unattended h .error _)

/-- A member that is born where nobody interrupts is not interrupted later. -/
theorem exists_birth_unattended {path settings : Json} {g : Int} {w₁ : World} (hasPsyche : Bool)
    (hload : loadSettings path w = (.ok settings, w₁)) (hg : (Json.int g).isShowable = true)
    (h : w₁.Unattended) :
    ∃ m w', birth hasPsyche path (.int g) w = (.ok m, w') ∧ m.settings = settings ∧
      m.generation = .int g ∧ w'.Unattended := by
  have hlines := World.unattended_iff.mp h
  obtain ⟨m, w', hbirth, hsettings, hgeneration, -⟩ :=
    exists_birth hasPsyche hload hg (hlines (0 + 3))
  refine ⟨m, w', hbirth, hsettings, hgeneration, World.unattended_iff.mpr fun lines => ?_⟩
  obtain ⟨m₂, w₂, hbirth₂, -, -, hw₂⟩ := exists_birth hasPsyche hload hg (hlines (lines + 3))
  rw [hbirth] at hbirth₂
  obtain rfl : w' = w₂ := (Prod.mk.inj hbirth₂).2
  exact hw₂

/-- Whatever the settings file holds, a member of a generation whose number can be shown is born
with the settings in the file, or the default ones if the file cannot be read. If it then deploys,
it gets an answer exactly if the settings are an object whose entries give one. A number with too
many digits ends the birth. -/
theorem startup_answers_iff (hasPsyche : Bool) (g : Int) (content : String) (w : World)
    (hfile : w.files.text? ["config.json"] = some content)
    (hfolder : w.files.isFolder ["config.json"] = false) (h : w.Unattended) :
    (g.natAbs < Number.tenPow Text.digitLimit →
      ∃ m w', birth hasPsyche (.str "config.json") (.int g) w = (.ok m, w') ∧
        m.settings = settingsIn content ∧ m.generation = .int g ∧
        (Member.deploy.Answers m w' ↔
          ∃ fields, settingsIn content = .obj fields ∧ Answering fields g)) ∧
    (Number.tenPow Text.digitLimit ≤ g.natAbs →
      ∃ w', birth hasPsyche (.str "config.json") (.int g) w = (.error .tooManyDigits, w')) := by
  obtain ⟨w₁, hload, hw₁⟩ := loadSettings_config hfile hfolder h
  refine ⟨fun hdigits => ?_, fun hdigits => ⟨w₁, birth_of_too_many_digits hasPsyche hload ?_⟩⟩
  case refine_2 =>
    exact Bool.eq_false_iff.mpr fun hshown =>
      absurd (Json.isShowable_int_iff.mp hshown) (Nat.not_lt.mpr hdigits)
  obtain ⟨m, w', hbirth, hsettings, hgeneration, hw'⟩ :=
    exists_birth_unattended hasPsyche hload (Json.isShowable_int_iff.mpr hdigits) hw₁
  refine ⟨m, w', hbirth, hsettings, hgeneration, ?_⟩
  by_cases hobject : ∃ fields, settingsIn content = .obj fields
  · obtain ⟨fields, hfields⟩ := hobject
    rw [Member.deploy_answers_iff hgeneration (hsettings.trans hfields) hw', hfields]
    simp
  · have hdeploy := Member.deploy_of_not_obj
      (fun fields hfields => hobject ⟨fields, hsettings.symm.trans hfields⟩) w'
    refine iff_of_false ?_ fun ⟨fields, hfields, _⟩ => hobject ⟨fields, hfields⟩
    rintro ⟨deployed, m', w'', hanswer⟩
    rw [hdeploy] at hanswer
    cases hanswer

/-- Settings under which a member has children give an answer. -/
theorem Permits.answering {settings : Json} {g allowed : Nat} (h : Permits settings g allowed) :
    ∃ fields, settings = .obj fields ∧ Answering fields g := by
  obtain ⟨most, hmost, hlt⟩ := h.generations
  have hchildren := h.children
  have hdigits := h.succ_lt_tenPow
  have hallowed := h.allowed_le
  cases settings with
  | obj fields =>
      refine ⟨fields, rfl, fun _ => ⟨.whole most, ?_, fun _ => ⟨⟨.whole allowed, ?_, ?_⟩, ?_⟩⟩⟩
      · rw [entry, Except.ok.inj hmost]
        rfl
      · rw [entry, Except.ok.inj hchildren]
        rfl
      · refine ⟨by omega, ?_⟩
        calc allowed < 2 ^ 54 - 1 := by omega
          _ ≤ Number.overflow := Number.le_overflow
          _ ≤ Number.overflow * ((g : Int) + 1).natAbs := Nat.le_mul_of_pos_right _ (by omega)
      · omega
  | _ => cases hmost

/-- A world with nothing but a settings file, where nobody interrupts. -/
def cradle (content : String) : World where
  clock := ⟨0⟩
  draws := ⟨[], 0⟩
  limits := { logs := 0 }
  files := { texts := [(["config.json"], content)] }

theorem cradle_ready (content : String) :
    (cradle content).files.text? ["config.json"] = some content ∧
      (cradle content).files.isFolder ["config.json"] = false ∧ (cradle content).Unattended :=
  ⟨rfl, rfl, Int.le_refl 0⟩

theorem settingsIn_encodeIndented {settings : Json} {g allowed : Nat}
    (h : Permits settings g allowed) : settingsIn settings.encodeIndented = settings := by
  have hreturn : '\r' ∉ settings.encodeIndented.toList := fun hc => by
    rcases Json.isPrintable_or_of_mem_encodeIndented _ _ hc with hc | hc
    · cases hc
    · exact absurd hc (by decide)
  rw [settingsIn, Text.unifyLineEnds_of_not_mem hreturn, String.ofList_toList,
    Json.decode_encodeIndented h.plain h.within_depthLimit]
  rfl

/-- A member of the second generation starts up with the settings of its mother and gets an
answer. -/
theorem startup_answers_mother :
    ∃ m w', birth true (.str "config.json") (.int 1)
        (cradle Member.mother.settings.encodeIndented) = (.ok m, w') ∧
      m.settings = Member.mother.settings ∧ Member.deploy.Answers m w' := by
  obtain ⟨hfile, hfolder, hunattended⟩ := cradle_ready Member.mother.settings.encodeIndented
  have hdigits : (1 : Int).natAbs < Number.tenPow Text.digitLimit :=
    Number.lt_tenPow_of_le (by decide : 1 < Number.tenPow 1) (by decide)
  obtain ⟨m, w', hbirth, hsettings, -, hanswers⟩ :=
    (startup_answers_iff true 1 _ _ hfile hfolder hunattended).1 hdigits
  rw [settingsIn_encodeIndented Member.mother_permits] at hsettings hanswers
  exact ⟨m, w', hbirth, hsettings, hanswers.mpr Member.mother_permits.answering⟩

/-- A settings file with an empty list is read, and the founder that has it fails when it deploys.
A member that is told to be of the generation before the founder's fails with settings that permit
children. -/
theorem startup_unanswered :
    (∃ m w', birth false (.str "config.json") (.int 0) (cradle "[]") = (.ok m, w') ∧
      m.settings = .arr [] ∧
      Member.deploy m w' = ((.error (.mismatch (.noAttribute "list" "get")), m), w')) ∧
    (Member.deploy { Member.mother with generation := .int (-1) } (cradle "")).1.1 =
      .error (.calculation .divisionByZero) := by
  have hdecode : Json.decode "[]" = .ok (.arr []) :=
    Json.decode_encode (v := .arr []) trivial trivial
  have hsettingsIn : settingsIn "[]" = .arr [] := by
    rw [settingsIn, Text.unifyLineEnds_of_not_mem (by decide), String.ofList_toList, hdecode]
    rfl
  obtain ⟨hfile, hfolder, hunattended⟩ := cradle_ready "[]"
  obtain ⟨w₁, hload, hw₁⟩ := loadSettings_config hfile hfolder hunattended
  have hshown : (Json.int 0).isShowable = true :=
    Json.isShowable_int_iff.mpr (Number.lt_tenPow_of_le (by decide : 0 < Number.tenPow 0)
      (Nat.zero_le _))
  obtain ⟨m, w', hbirth, hsettings, -, -⟩ := exists_birth_unattended false hload hshown hw₁
  rw [hsettingsIn] at hsettings
  have hdeploy := Member.deploy_of_not_obj (m := m)
    (fun fields hfields => by rw [hsettings] at hfields; cases hfields) w'
  rw [hsettings] at hdeploy
  exact ⟨⟨m, w', hbirth, hsettings, hdeploy⟩, rfl⟩

end Lineage

end Persona
