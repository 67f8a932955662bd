import Persona.Proofs.Scribe.Shelving

/-!
# Submitting a specification

Once its file is written, a specification is submitted by three git commands. The codes with which
they end say how far this goes: after the first that is not zero no more is run. The answer is the
address of the file if all three are zero, and the path of the file otherwise, and these are never
the same text. Address and path go on with the same names below the shelf.

There is no answer if the file cannot be written, be it that its text has no bytes, or if the system
does not start a command. In the second case the file is there and the commands before were run.

Main statements: `started_forM_git`, `Spec.text_fileIn`, `submission_truthful`.
-/

namespace Persona.Scribe

open World (Same)

/-! ## Exit codes -/

/-- The commands end with these codes, one after the other. -/
def Exits (codes : List Int) (commands : List (Scripted Outcome)) : Prop :=
  codes.map some <+: commands.map exitCode?

/-- The codes say how so many commands in a row end: there is one for each, or one is a failure. -/
def Settles (codes : List Int) (count : Nat) : Prop :=
  count ≤ codes.length ∨ ∃ code ∈ codes, code ≠ 0

theorem Exits.exists_cons {code : Int} {codes : List Int} {commands : List (Scripted Outcome)}
    (h : Exits (code :: codes) commands) :
    ∃ stdout stderr rest,
      commands = .gives (.exited code stdout stderr) :: rest ∧ Exits codes rest := by
  cases commands with
  | nil => exact absurd (List.prefix_nil.mp h) (List.cons_ne_nil _ _)
  | cons command rest =>
      obtain ⟨hcode, hrest⟩ := List.cons_prefix_cons.mp h
      match command with
      | .gives (.exited code' stdout stderr) =>
          cases hcode
          exact ⟨stdout, stderr, rest, rfl, hrest⟩

theorem not_settles_nil (count : Nat) : ¬Settles [] (count + 1) := by
  simp [Settles]

theorem Settles.tail {codes : List Int} {count : Nat} (h : Settles (0 :: codes) (count + 1)) :
    Settles codes count := by
  simpa [Settles] using h

/-- Commands are done if their codes are zero, and one of them is refused otherwise. -/
theorem verdict_of_exits {codes : List Int} {commands : List (Scripted Outcome)} {count : Nat}
    (h : Exits codes commands) (hcodes : Settles codes count) :
    verdict count commands = if ∀ code ∈ codes.take count, code = 0 then .done else .refused := by
  induction count generalizing codes commands with
  | zero => simp [verdict]
  | succ count ih =>
      cases codes with
      | nil => exact absurd hcodes (not_settles_nil count)
      | cons code codes =>
          obtain ⟨stdout, stderr, rest, rfl, hrest⟩ := h.exists_cons
          by_cases hcode : code = 0
          · subst hcode
            simp only [verdict, if_true, ih hrest hcodes.tail, List.take_succ_cons,
              List.forall_mem_cons, true_and]
          · simp only [verdict, List.take_succ_cons, List.forall_mem_cons, hcode, false_and,
              if_false]

/-! ## What is run -/

/-- The commands are started in order, up to the first that fails. -/
theorem started_forM_git {codes : List Int} {repository : Path} {steps : List (List String)}
    {w : World} (hstarts : Starts w.system w.commands (steps.map (gitCommand repository)))
    (h : Exits codes w.commands) (hcodes : Settles codes steps.length) :
    (steps.forM (git repository) w).2.started =
      w.started ++
        (steps.take ((codes.takeWhile (· = 0)).length + 1)).map (gitCommand repository) := by
  induction steps generalizing w codes with
  | nil => exact (List.append_nil w.started).symm
  | cons arguments steps ih =>
      cases codes with
      | nil => exact absurd hcodes (not_settles_nil _)
      | cons code codes =>
          obtain ⟨stdout, stderr, rest, hcommands, hrest⟩ := h.exists_cons
          rw [hcommands, List.map_cons, starts_cons_iff] at hstarts
          have hgit := git_of_commands hcommands hstarts.1
          have hstarted := w.started_record (.run (gitCommand repository arguments))
          rw [List.forM_eq_forM, List.forM_cons]
          by_cases hcode : code = 0
          · subst hcode
            rw [if_pos rfl] at hgit
            have hsteps := ih (w := { w.record (.run (gitCommand repository arguments)) with
              commands := rest }) (hstarts.2 rfl) hrest hcodes.tail
            rw [Act.bind_of_ok hgit]
            refine hsteps.trans ?_
            rw [List.takeWhile_cons_of_pos (by simp), List.length_cons, List.take_succ_cons,
              List.map_cons, List.append_cons]
            exact congrArg (· ++ _) hstarted
          · rw [if_neg hcode] at hgit
            rw [Act.bind_of_error hgit, List.takeWhile_cons_of_neg (by simpa using hcode)]
            exact hstarted

theorem print_started (text : String) : (Act.print text).Leads (Same World.started) := fun w =>
  (w.started_record (.out (text ++ "\n"))).trans (List.append_nil w.started)

/-- Beside the steps nothing is run. -/
theorem submit_started (repository : Path) (spec : Spec) (folder : String) (file : Path)
    (w : World) :
    (submit repository spec folder file w).2.started =
      ((spec.steps file).forM (git repository) w).2.started := by
  have hprinted : ∀ a : Unit, (do
      Act.print "✅ Pushed to GitHub"
      return spec.address folder : Act String).Leads (Same World.started) := fun _ =>
    .bind (print_started _) fun _ => .pure _
  rw [← push_eq]
  have hall := Act.Leads.bind_from (x := push repository spec file) hprinted w
  refine Eq.trans (Act.Leads.tryCatch_from (R := Same World.started) (fun f => ?_) w) hall
  cases f with
  | command arguments code stderr => exact .bind (print_started _) fun _ => .pure _
  | _ => exact .throw _

/-! ## Paths below the shelf -/

theorem mem_of_folderOf {category : Json} {folder : String} (h : folderOf category = .ok folder) :
    folder ∈ categoryFolders.map Prod.snd := by
  have hdefault : "examples/languages" ∈ categoryFolders.map Prod.snd := by decide
  cases category with
  | str s =>
      obtain rfl := Except.ok.inj h
      cases hget : Fields.get? categoryFolders s with
      | none => exact hdefault
      | some folder =>
          have hmem := (Fields.get?_eq_some_iff (by decide) s folder).mp hget
          exact List.mem_map_of_mem hmem
  | arr xs => cases h
  | obj fs => cases h
  | null | bool b | int n | float x =>
      obtain rfl := Except.ok.inj h
      exact hdefault

/-- The folder of a category is a path without a root of its own, and written as it is read. -/
theorem ofText_folderOf {category : Json} {folder : String} (h : folderOf category = .ok folder) :
    (Path.ofText folder).anchor = .here ∧ (Path.ofText folder).parts ≠ [] ∧
      "/".intercalate (Path.ofText folder).parts = folder := by
  have hall : ∀ folder ∈ categoryFolders.map Prod.snd, (Path.ofText folder).anchor = .here ∧
      (Path.ofText folder).parts ≠ [] ∧ "/".intercalate (Path.ofText folder).parts = folder := by
    decide +kernel
  exact hall folder (mem_of_folderOf h)

/-- The shelf is some way down. -/
theorem parts_shelfOf_ne_nil (w : World) : (shelfOf w).parts ≠ [] := by
  have hcore : "phi-core" ∈ Text.split "IdeaProjects/phi/specs/phi-core" "/" := by decide +kernel
  have hbelow : "/IdeaProjects/phi/specs/phi-core" = "/" ++ "IdeaProjects/phi/specs/phi-core" := rfl
  have hmem : "phi-core" ∈ (shelfOf w).parts := by
    rw [shelfOf, shelfIn, Path.ofText, hbelow, ← String.append_assoc, Text.split_slash_append]
    simp [hcore]
  exact List.ne_nil_of_mem hmem

theorem anchor_shelfOf_ne_home (w : World) : (shelfOf w).anchor ≠ .home := by
  rw [shelfOf, shelfIn, Path.ofText, Path.anchorOf]
  split <;> simp

namespace Spec

/-- Where a specification lies below the shelf. -/
def below (spec : Spec) (folder : String) : String := folder ++ "/" ++ spec.fileName

theorem address_eq (spec : Spec) (folder : String) :
    spec.address folder =
      "https://github.com/eurisko-info-lab/phi/blob/main/specs/phi-core/" ++ spec.below folder := by
  have hbase (base : String) :
      base ++ folder ++ "/" ++ spec.fileName = base ++ spec.below folder := by
    simp only [below, String.append_assoc]
  exact hbase _

/-- Two slashes stand together in an address. -/
theorem exists_host (spec : Spec) (folder : String) :
    ∃ host, spec.address folder = "https:" ++ "/" ++ ("" ++ "/" ++ host) := by
  obtain ⟨host, hhost⟩ : ∃ host,
      "https://github.com/eurisko-info-lab/phi/blob/main/specs/phi-core/" =
        "https:" ++ "/" ++ ("" ++ "/" ++ host) :=
    ⟨"github.com/eurisko-info-lab/phi/blob/main/specs/phi-core/", by decide +kernel⟩
  refine ⟨host ++ spec.below folder, (address_eq spec folder).trans ?_⟩
  refine (congrArg (· ++ spec.below folder) hhost).trans ?_
  simp only [String.append_assoc]

section

variable {spec : Spec} (hname : '/' ∉ spec.name.text.toList) {w : World} {folder : String}
  (hfolder : folderOf spec.category = .ok folder)
include hname hfolder

theorem fileIn_eq : spec.fileIn w folder =
    ⟨(shelfOf w).anchor, (shelfOf w).parts ++ ((Path.ofText folder).parts ++ [spec.fileName])⟩ := by
  obtain ⟨hanchor, -, -⟩ := ofText_folderOf hfolder
  have hjoin : (shelfOf w).join folder =
      ⟨(shelfOf w).anchor, (shelfOf w).parts ++ (Path.ofText folder).parts⟩ := by
    simp only [Path.join, hanchor, if_true]
  rw [fileIn_of_noSlash hname, hjoin, List.append_assoc]

/-- The path of the file goes on below the shelf like its address. -/
theorem text_fileIn :
    (spec.fileIn w folder).text = (shelfOf w).text ++ "/" ++ spec.below folder := by
  obtain ⟨-, hparts, hwritten⟩ := ofText_folderOf hfolder
  have hbelow : "/".intercalate ((Path.ofText folder).parts ++ [spec.fileName]) =
      spec.below folder := by
    rw [String.intercalate_append_of_ne_nil hparts (List.cons_ne_nil _ _), hwritten,
      String.intercalate_singleton, below]
  rw [fileIn_eq hname hfolder, Path.text_append (parts_shelfOf_ne_nil w) (by simp), hbelow]

/-- The names on the way to the file are not empty and hold no slash. -/
theorem of_mem_parts_fileIn {part : String} (h : part ∈ (spec.fileIn w folder).parts) :
    part ≠ "" ∧ '/' ∉ part.toList := by
  rw [fileIn_eq hname hfolder, List.mem_append, List.mem_append, List.mem_singleton] at h
  obtain h | h | rfl := h
  · exact Path.of_mem_parts_ofText h
  · exact Path.of_mem_parts_ofText h
  · exact ⟨spec.fileName_ne (by decide), noSlash_fileName hname⟩

/-- No path is written like an address: between the slashes of a path there is always a name. -/
theorem address_ne_text : spec.address folder ≠ (spec.fileIn w folder).text := by
  intro heq
  have hfile := fileIn_eq hname hfolder (w := w)
  have hne : (spec.fileIn w folder).parts ≠ [] := by simp [hfile]
  obtain ⟨host, haddress⟩ := spec.exists_host folder
  rw [haddress] at heq
  cases hanchor : (spec.fileIn w folder).anchor with
  | home =>
      simp only [hfile] at hanchor
      exact anchor_shelfOf_ne_home w hanchor
  | root double =>
      have hfirst := congrArg (·.toList.head?) heq
      rw [Path.text_eq hne, hanchor] at hfirst
      cases double <;> simp [Anchor.text] at hfirst
  | here =>
      have hsplit := Path.split_text hanchor hne fun part hpart =>
        (of_mem_parts_fileIn hname hfolder hpart).2
      have hempty : "" ∈ (spec.fileIn w folder).parts := by
        have hnothing : Text.split "" "/" = [""] := rfl
        rw [← hsplit, ← heq, Text.split_slash_append, Text.split_slash_append "" host, hnothing]
        simp
      exact (of_mem_parts_fileIn hname hfolder hempty).1 rfl

end

end Spec

/-! ## What comes of it -/

/-- The file is at its place, git was told what to do with it up to the first failure, and the
answer is the address of the file if all went well, and its path if not. Address and path go on
with the same names below the shelf. -/
structure Spec.Submitted (spec : Spec) (w : World) (codes : List Int) (folder text : String) :
    Prop where
  inPlace : (keep spec w).2.files.text? (spec.fileIn w folder).place = some text
  located : (spec.fileIn w folder).text = (shelfOf w).text ++ "/" ++ spec.below folder
  addressed : spec.address folder =
    "https://github.com/eurisko-info-lab/phi/blob/main/specs/phi-core/" ++ spec.below folder
  ran : (keep spec w).2.started = w.started ++
    ((spec.steps (spec.fileIn w folder)).take ((codes.takeWhile (· = 0)).length + 1)).map
      (gitCommand (shelfOf w).parent.parent)
  published : (keep spec w).1 = .ok (spec.address folder) ↔ ∀ code ∈ codes.take 3, code = 0
  unpublished : ¬(∀ code ∈ codes.take 3, code = 0) →
    (keep spec w).1 = .ok (spec.fileIn w folder).text

/-- The file is at its place, but the system does not start one of the commands. Those before it
were run, and the fault is passed on. -/
structure Spec.Stopped (spec : Spec) (w : World) (folder text : String) : Prop where
  inPlace : (keep spec w).2.files.text? (spec.fileIn w folder).place = some text
  stopped : ∃ begun command later e, spec.commands w folder = begun ++ command :: later ∧
    begun.length ≤ successes w.commands ∧ w.system.startError? command = some e ∧
    (keep spec w).1 = .error (Act.startFault command e) ∧
    (keep spec w).2.started = w.started ++ begun

theorem started_shelving (spec : Spec) (w : World) (folder : String) (files : Files) :
    (spec.shelving w folder files).started = w.started :=
  print_started _ { w with files }

section

variable {spec : Spec} {w : World} {folder text : String} {tree : Files}
  (h : spec.Placed w folder text tree) (hencodable : Text.halves? text = none)
include h hencodable

theorem inPlace_of_encodable :
    (keep spec w).2.files.text? (spec.fileIn w folder).place = some text := by
  rw [text?_keep_of_placed h, leftOf, hencodable]
  rfl

/-- A written file is submitted. -/
theorem submitted_of_starts {codes : List Int} (hname : '/' ∉ spec.name.text.toList)
    (hexits : Exits codes w.commands) (hcodes : Settles codes 3)
    (hstarts : Starts w.system w.commands (spec.commands w folder)) :
    spec.Submitted w codes folder text := by
  have hkeep := keep_of_shelved (h.shelved hencodable)
  have hstarted := started_shelving spec w folder (tree.put (spec.fileIn w folder).place text)
  generalize hw₁ : spec.shelving w folder _ = w₁ at hkeep hstarted
  have hcommands : w₁.commands = w.commands := hw₁ ▸ rfl
  have hsystem : w₁.system = w.system := hw₁ ▸ rfl
  rw [← hcommands, ← hsystem] at hstarts
  rw [← hcommands] at hexits
  have hsubmit := submit_cases (shelfOf w).parent.parent spec folder (spec.fileIn w folder) w₁
  have hverdict : verdictOf _ = if ∀ code ∈ codes.take 3, code = 0 then .done else .refused :=
    (verdictOf_forM_git hstarts).trans (verdict_of_exits hexits hcodes)
  rw [← hkeep, hverdict] at hsubmit
  have hran := submit_started (shelfOf w).parent.parent spec folder (spec.fileIn w folder) w₁
  rw [← hkeep, started_forM_git hstarts hexits hcodes, hstarted] at hran
  have hdistinct := Spec.address_ne_text hname h.sorted (w := w)
  have hinPlace := inPlace_of_encodable h hencodable
  have hlocated := Spec.text_fileIn hname h.sorted (w := w)
  by_cases hzero : ∀ code ∈ codes.take 3, code = 0
  · rw [if_pos hzero] at hsubmit
    exact ⟨hinPlace, hlocated, spec.address_eq folder, hran, iff_of_true hsubmit hzero,
      fun hnot => absurd hzero hnot⟩
  · rw [if_neg hzero] at hsubmit
    have hpath : (keep spec w).1 ≠ .ok (spec.address folder) := fun haddress =>
      hdistinct (Except.ok.inj (haddress.symm.trans hsubmit))
    exact ⟨hinPlace, hlocated, spec.address_eq folder, hran, iff_of_false hpath hzero,
      fun _ => hsubmit⟩

/-- A command that is not started stops the submission. -/
theorem stopped_of_not_starts
    (hstarts : ¬Starts w.system w.commands (spec.commands w folder)) :
    spec.Stopped w folder text := by
  have hkeep := keep_of_shelved (h.shelved hencodable)
  have hstarted := started_shelving spec w folder (tree.put (spec.fileIn w folder).place text)
  generalize hw₁ : spec.shelving w folder _ = w₁ at hkeep hstarted
  have hcommands : w₁.commands = w.commands := hw₁ ▸ rfl
  have hsystem : w₁.system = w.system := hw₁ ▸ rfl
  rw [← hcommands, ← hsystem] at hstarts
  obtain ⟨begun, command, later, e, w', hsteps, hlength, hrefused, hrun, hbegun⟩ :=
    forM_git_of_not_starts hstarts
  have hran := submit_started (shelfOf w).parent.parent spec folder (spec.fileIn w folder) w₁
  rw [hrun, ← hkeep, hbegun, hstarted] at hran
  refine ⟨inPlace_of_encodable h hencodable, begun, command, later, e, hsteps,
    hcommands ▸ hlength, hsystem ▸ hrefused, ?_, hran⟩
  rw [hkeep, submit_of_startFault (push_eq _ _ _ ▸ hrun)]

end

/-- What becomes of a specification with a plain name, whose commands end with these codes. If its
file can be put at its place and the text of it has bytes, the specification is submitted as far as
the codes allow, or up to a command that the system does not start. A text without bytes leaves an
empty file, and without a place nothing is written. Either ends in a fault, before any command. -/
theorem submission_truthful {spec : Spec} {w : World} {codes : List Int}
    (hname : '/' ∉ spec.name.text.toList) (hexits : Exits codes w.commands)
    (hcodes : Settles codes 3) :
    (∀ folder text tree, spec.Placed w folder text tree →
      (Text.halves? text = none → Starts w.system w.commands (spec.commands w folder) →
        spec.Submitted w codes folder text) ∧
      (Text.halves? text = none → ¬Starts w.system w.commands (spec.commands w folder) →
        spec.Stopped w folder text) ∧
      (Text.halves? text ≠ none → (keep spec w).1 = .error (.unencodable text) ∧
        (keep spec w).2.files.text? (spec.fileIn w folder).place = some "" ∧
        (keep spec w).2.started = w.started)) ∧
    ((¬∃ folder text tree, spec.Placed w folder text tree) →
      (∃ f, (keep spec w).1 = .error f) ∧ (keep spec w).2.files.texts = w.files.texts ∧
        (keep spec w).2.started = w.started) := by
  constructor
  · intro folder text tree hplaced
    refine ⟨fun hencodable => submitted_of_starts hplaced hencodable hname hexits hcodes,
      fun hencodable => stopped_of_not_starts hplaced hencodable, fun hhalves => ?_⟩
    have hkeep := keep_of_unencodable hplaced (Option.isSome_iff_ne_none.mpr hhalves)
    have hfile := text?_keep_of_placed hplaced
    rw [leftOf, if_pos (Option.isSome_iff_ne_none.mpr hhalves)] at hfile
    rw [hkeep] at hfile ⊢
    exact ⟨rfl, hfile, rfl⟩
  · intro hplaced
    obtain ⟨f, tree, hrun, htexts⟩ := keep_of_not_placed hplaced
    rw [hrun]
    exact ⟨⟨f, rfl⟩, htexts, rfl⟩

/-- The file is added, and the commit is refused. -/
def refusedCommit : List (Scripted Outcome) :=
  [.gives (.exited 0 .null .null), .gives (.exited 1 .null .null)]

/-- Then nothing is pushed, and the path of the file is the answer. -/
theorem submission_truthful_refused_commit :
    (keep identity (identityWorld refusedCommit)).1 =
      .ok "IdeaProjects/phi/specs/phi-core/examples/meta/id.phi" ∧
    ((keep identity (identityWorld refusedCommit)).2.started.map fun command =>
        (command.arguments, command.folder)) =
      [(["git", "add", "IdeaProjects/phi/specs/phi-core/examples/meta/id.phi"],
          some "IdeaProjects/phi"),
        (["git", "commit", "-m", "feat: Add id.phi - Identity"], some "IdeaProjects/phi")] := by
  have hname : '/' ∉ identity.name.text.toList := by decide
  have hexits : Exits [0, 1] (identityWorld refusedCommit).commands := List.prefix_refl _
  obtain ⟨folder, text, files, hshelved⟩ := shelved_identity refusedCommit
  obtain ⟨tree, hplaced, -⟩ := hshelved.placed
  cases hshelved.sorted
  have hsubmitted := ((submission_truthful hname hexits (.inr ⟨1, by decide, by decide⟩)).1
    "examples/meta" text tree hplaced).1 hshelved.encodable fun _ _ => rfl
  have hfile : (identity.fileIn (identityWorld refusedCommit) "examples/meta").text =
      "IdeaProjects/phi/specs/phi-core/examples/meta/id.phi" := by decide +kernel
  constructor
  · rw [hsubmitted.unpublished (by decide)]
    exact congrArg _ hfile
  · rw [hsubmitted.ran]
    decide +kernel

/-- The identity, with the first half of a pair for its title. -/
def halfIdentity : Spec := titledIdentity (Text.ofPoints [0xd800])

/-- All commands are a success. -/
def smooth : List (Scripted Outcome) := List.replicate 3 (.gives (.exited 0 .null .null))

/-- A title that has no bytes: all commands would be a success, but none is run, and there is no
answer. An empty file is left. -/
theorem half_title_not_submitted :
    '/' ∉ halfIdentity.name.text.toList ∧ Exits [0, 0, 0] (identityWorld smooth).commands ∧
    (∃ text, (keep halfIdentity (identityWorld smooth)).1 = .error (.unencodable text)) ∧
    (keep halfIdentity (identityWorld smooth)).2.files.text?
      ["IdeaProjects", "phi", "specs", "phi-core", "examples", "meta", "id.phi"] = some "" ∧
    (keep halfIdentity (identityWorld smooth)).2.started = [] := by
  obtain ⟨folder, text, tree, hplaced⟩ := placed_titledIdentity (Text.ofPoints [0xd800]) smooth
  have hsome : ((halfIdentity.fileText (identityWorld smooth).clock.date).toOption.bind
      Text.halves?).isSome = true := by decide +kernel
  have hhalves : (Text.halves? text).isSome = true := by
    rw [halfIdentity, hplaced.composed] at hsome
    exact hsome
  have hkeep := keep_of_unencodable hplaced hhalves
  have hfile := text?_keep_of_placed hplaced
  rw [leftOf, if_pos hhalves] at hfile
  cases hplaced.sorted
  refine ⟨by decide, List.prefix_refl _, ⟨text, congrArg Prod.fst hkeep⟩, hfile, ?_⟩
  exact congrArg (·.2.started) hkeep

end Persona.Scribe
