import Persona.Proofs.Outcome
import Persona.Proofs.Scribe.Announcing

/-!
# Keeping a specification

A specification is kept in two steps. First its file is written, which needs a category with a
folder, a content that can be appended to the header, and room for the file. Then git is run. A
refusal of git is answered with the path of the file; whatever else goes wrong is passed on, be it
that git is not there or that the system does not start it with such arguments.

Main statements: `verdictOf_forM_git`, `keep_kept`.
-/

namespace Persona.Scribe

open World (Same)

/-! ## Git -/

/-- How some commands in a row end. -/
inductive Verdict where
  /-- All of them are a success. -/
  | done
  /-- One of them ends with a code other than zero. -/
  | refused
  /-- One of them cannot be run. -/
  | broken
  deriving DecidableEq

/-- How so many commands end, by what they answer. After one that is no success, no more is run. -/
def verdict : Nat → List (Scripted Outcome) → Verdict
  | 0, _ => .done
  | n + 1, .gives (.exited code _ _) :: rest => if code = 0 then verdict n rest else .refused
  | _ + 1, _ => .broken

/-- How commands ended, by the result. -/
def verdictOf : Except Fault Unit → Verdict
  | .ok _ => .done
  | .error (.command ..) => .refused
  | .error _ => .broken

theorem verdict_succ (n : Nat) (commands : List (Scripted Outcome)) :
    verdict (n + 1) commands =
      if verdict 1 commands = .done then verdict n commands.tail else verdict 1 commands := by
  match commands with
  | [] => rfl
  | .fails text :: rest => rfl
  | .gives .notInstalled :: rest => rfl
  | .gives (.exited code stdout stderr) :: rest =>
      by_cases hcode : code = 0 <;> simp [verdict, hcode]

/-- The code with which a command ends, if it can be run. -/
def exitCode? : Scripted Outcome → Option Int
  | .gives (.exited code _ _) => some code
  | _ => none

/-- How many commands are a success before one that is none. -/
def successes : List (Scripted Outcome) → Nat
  | [] => 0
  | command :: rest => if exitCode? command = some 0 then successes rest + 1 else 0

/-- The system starts all of these commands that come to be run, by what they answer: those up to
the first that is no success. -/
def Starts (system : System) (answers : List (Scripted Outcome)) (commands : List Command) : Prop :=
  ∀ command ∈ commands.take (successes answers + 1), system.startError? command = none

instance (system : System) (answers : List (Scripted Outcome)) (commands : List Command) :
    Decidable (Starts system answers commands) :=
  inferInstanceAs (Decidable (∀ command ∈ commands.take _, _))

/-- The first command is started, and the others are if it is a success. -/
theorem starts_cons_iff {system : System} {answers : List (Scripted Outcome)} {command : Command}
    {commands : List Command} :
    Starts system answers (command :: commands) ↔ system.startError? command = none ∧
      (verdict 1 answers = .done → Starts system answers.tail commands) := by
  rw [Starts, List.take_succ_cons, List.forall_mem_cons, Starts]
  refine and_congr_right fun _ => ?_
  match answers with
  | [] => simp [successes, verdict]
  | .fails text :: rest => simp [successes, exitCode?, verdict]
  | .gives .notInstalled :: rest => simp [successes, exitCode?, verdict]
  | .gives (.exited code stdout stderr) :: rest =>
      by_cases hcode : code = 0 <;> simp [successes, exitCode?, verdict, hcode]

theorem of_verdict_one_eq_done {answers : List (Scripted Outcome)} (h : verdict 1 answers = .done) :
    ∃ stdout stderr rest, answers = .gives (.exited 0 stdout stderr) :: rest := by
  match answers with
  | [] | .fails text :: rest | .gives .notInstalled :: rest => cases h
  | .gives (.exited code stdout stderr) :: rest =>
      by_cases hcode : code = 0
      · subst hcode
        exact ⟨stdout, stderr, rest, rfl⟩
      · simp [verdict, hcode] at h

/-- A git command, run in the repository. -/
def gitCommand (repository : Path) (arguments : List String) : Command :=
  { arguments := "git" :: arguments, folder := some repository.text }

theorem git_eq (repository : Path) (arguments : List String) :
    git repository arguments =
      Act.execute (gitCommand repository arguments) >>= fun _ => pure () := rfl

/-- A command that the system does not start is a fault of its own. -/
theorem git_of_refused {w : World} {repository : Path} {arguments : List String} {e : StartError}
    (h : w.system.startError? (gitCommand repository arguments) = some e) :
    git repository arguments w = (.error (Act.startFault (gitCommand repository arguments) e), w) :=
  Act.bind_of_error (Act.execute_of_refused h)

theorem verdictOf_startFault (command : Command) (e : StartError) :
    verdictOf (.error (Act.startFault command e)) = .broken := by
  cases e <;> rfl

/-- A command that ends with a code is a success if that is zero. -/
theorem git_of_commands {w : World} {code : Int} {stdout stderr : Json}
    {rest : List (Scripted Outcome)} (h : w.commands = .gives (.exited code stdout stderr) :: rest)
    {repository : Path} {arguments : List String}
    (hstart : w.system.startError? (gitCommand repository arguments) = none) :
    git repository arguments w =
      (if code = 0 then .ok () else .error (.command ("git" :: arguments) code stderr),
        { w.record (.run (gitCommand repository arguments)) with commands := rest }) := by
  have hrun := Act.execute_of_started hstart
  rw [h] at hrun
  rw [git_eq]
  by_cases hcode : code = 0
  · simp only [if_pos hcode] at hrun ⊢
    exact Act.bind_of_ok hrun
  · simp only [if_neg hcode] at hrun ⊢
    exact Act.bind_of_error hrun

theorem git_verdict {repository : Path} {arguments : List String} {w : World}
    (hstart : w.system.startError? (gitCommand repository arguments) = none) :
    verdictOf (git repository arguments w).1 = verdict 1 w.commands ∧
      ((git repository arguments w).1 = .ok () →
        (git repository arguments w).2.commands = w.commands.tail ∧
          (git repository arguments w).2.system = w.system) := by
  have hrun := Act.execute_of_started hstart
  match hcommands : w.commands with
  | [] =>
      rw [hcommands] at hrun
      rw [git_eq, Act.bind_of_error hrun]
      exact ⟨rfl, nofun⟩
  | .fails text :: rest =>
      rw [hcommands] at hrun
      rw [git_eq, Act.bind_of_error hrun]
      exact ⟨rfl, nofun⟩
  | .gives .notInstalled :: rest =>
      rw [hcommands] at hrun
      rw [git_eq, Act.bind_of_error hrun]
      exact ⟨rfl, nofun⟩
  | .gives (.exited code stdout stderr) :: rest =>
      rw [git_of_commands hcommands hstart]
      by_cases hcode : code = 0
      · simp only [verdict, if_pos hcode]
        exact ⟨rfl, fun _ => ⟨rfl, rfl⟩⟩
      · simp only [verdict, if_neg hcode]
        exact ⟨rfl, nofun⟩

/-- The commands end as what they answer says, if the system starts them. -/
theorem verdictOf_forM_git {repository : Path} {steps : List (List String)} {w : World}
    (h : Starts w.system w.commands (steps.map (gitCommand repository))) :
    verdictOf (steps.forM (git repository) w).1 = verdict steps.length w.commands := by
  induction steps generalizing w with
  | nil => rfl
  | cons arguments steps ih =>
      obtain ⟨hstart, hothers⟩ := starts_cons_iff.mp h
      obtain ⟨hone, hrest⟩ := git_verdict hstart
      rw [← hone] at hothers
      rw [List.length_cons, verdict_succ, ← hone, List.forM_eq_forM, List.forM_cons]
      rcases hrun : git repository arguments w with ⟨r, w'⟩
      rw [hrun] at hrest hothers
      cases r with
      | ok =>
          obtain ⟨hcommands, hsystem⟩ := hrest rfl
          rw [Act.bind_of_ok hrun, ← hcommands]
          refine ih ?_
          rw [hcommands, hsystem]
          exact hothers rfl
      | error f =>
          rw [Act.bind_of_error hrun, if_neg]
          cases f <;> exact nofun

/-- A command that the system does not start ends them with a fault of its own. Those before it were
run and are a success. -/
theorem forM_git_of_not_starts {repository : Path} {steps : List (List String)} {w : World}
    (h : ¬Starts w.system w.commands (steps.map (gitCommand repository))) :
    ∃ begun command later e w',
      steps.map (gitCommand repository) = begun ++ command :: later ∧
      begun.length ≤ successes w.commands ∧ w.system.startError? command = some e ∧
      steps.forM (git repository) w = (.error (Act.startFault command e), w') ∧
      w'.started = w.started ++ begun := by
  induction steps generalizing w with
  | nil => exact absurd (fun _ hmem => by cases hmem) h
  | cons arguments steps ih =>
      rw [List.forM_eq_forM, List.forM_cons]
      cases hstart : w.system.startError? (gitCommand repository arguments) with
      | some e =>
          exact ⟨[], _, _, e, w, rfl, Nat.zero_le _, hstart,
            Act.bind_of_error (git_of_refused hstart), (List.append_nil _).symm⟩
      | none =>
          have hfirst : verdict 1 w.commands = .done ∧
              ¬Starts w.system w.commands.tail (steps.map (gitCommand repository)) := by
            rw [List.map_cons, starts_cons_iff] at h
            simpa [hstart] using h
          obtain ⟨stdout, stderr, rest, hcommands⟩ := of_verdict_one_eq_done hfirst.1
          have hgit := git_of_commands hcommands hstart
          rw [if_pos rfl] at hgit
          rw [hcommands] at hfirst
          obtain ⟨begun, command, later, e, w', hsteps, hlength, hrefused, hrun, hstarted⟩ :=
            ih (w := { w.record (.run (gitCommand repository arguments)) with commands := rest })
              hfirst.2
          refine ⟨gitCommand repository arguments :: begun, command, later, e, w', ?_, ?_, hrefused,
            (Act.bind_of_ok hgit).trans hrun, ?_⟩
          · rw [List.map_cons, hsteps, List.cons_append]
          · simpa [hcommands, successes, exitCode?] using hlength
          · have hone := w.started_record (.run (gitCommand repository arguments))
            rw [hstarted, List.append_cons]
            exact congrArg (· ++ begun) hone

/-- What git is told to do with the file of a specification. -/
def Spec.steps (spec : Spec) (file : Path) : List (List String) :=
  [["add", file.text], ["commit", "-m", "feat: Add " ++ spec.fileName ++ " - " ++ spec.title.text],
    ["push"]]

theorem push_eq (repository : Path) (spec : Spec) (file : Path) :
    push repository spec file = (spec.steps file).forM (git repository) := by
  simp only [push, Spec.steps, List.forM_eq_forM, List.forM_cons, List.forM_nil, bind_pure_unit]

theorem git_outlook (repository : Path) (arguments : List String) :
    (git repository arguments).Leads (Same World.outlook) := by
  refine .bind (fun w => ?_) fun _ => .pure _
  have hrecord (command : Command) : (w.record (.run command)).outlook = w.outlook :=
    World.outlook_record rfl
  exact Act.execute_leaves rfl fun _ => hrecord _

/-- Where the file is said to be: at its address, or under its path if git refused. -/
theorem submit_cases (repository : Path) (spec : Spec) (folder : String) (file : Path) (w : World) :
    match verdictOf ((spec.steps file).forM (git repository) w).1 with
    | .done => (submit repository spec folder file w).1 = .ok (spec.address folder)
    | .refused => (submit repository spec folder file w).1 = .ok file.text
    | .broken => ∃ f, (submit repository spec folder file w).1 = .error f := by
  rw [← push_eq, submit]
  rcases hrun : push repository spec file w with ⟨r, w'⟩
  cases r with
  | ok =>
      have hall : (do
          push repository spec file
          Act.print "✅ Pushed to GitHub"
          return spec.address folder : Act String) w =
            (.ok (spec.address folder), w'.record (.out "✅ Pushed to GitHub\n")) := by
        rw [Act.bind_of_ok hrun]
        rfl
      simp only [verdictOf, Act.tryCatch_of_ok hall]
  | error f =>
      have hall : (do
          push repository spec file
          Act.print "✅ Pushed to GitHub"
          return spec.address folder : Act String) w = (.error f, w') := Act.bind_of_error hrun
      rw [Act.tryCatch_of_error hall]
      cases f with
      | command arguments code stderr => rfl
      | _ => exact ⟨_, rfl⟩

/-- A command that is not started is no refusal of git. -/
theorem submit_of_startFault {repository : Path} {spec : Spec} {folder : String} {file : Path}
    {w w' : World} {command : Command} {e : StartError}
    (h : push repository spec file w = (.error (Act.startFault command e), w')) :
    submit repository spec folder file w = (.error (Act.startFault command e), w') := by
  have hall : (do
      push repository spec file
      Act.print "✅ Pushed to GitHub"
      return spec.address folder : Act String) w = (.error (Act.startFault command e), w') :=
    Act.bind_of_error h
  rw [submit, Act.tryCatch_of_error hall]
  cases e <;> rfl

/-- Whatever commands and what is printed leave alone is left alone. -/
theorem submit_leads {R : World → World → Prop} [IsPreorder World R] {repository : Path}
    (hgit : ∀ arguments, (git repository arguments).Leads R)
    (hprint : ∀ text, (Act.print text).Leads R) (spec : Spec) (folder : String) (file : Path) :
    (submit repository spec folder file).Leads R := by
  have hpush : (push repository spec file).Leads R :=
    .bind (hgit _) fun _ => .bind (hgit _) fun _ => hgit _
  refine .tryCatch (.bind hpush fun _ => .bind (hprint _) fun _ => .pure _) fun f => ?_
  cases f with
  | command arguments code stderr => exact .bind (hprint _) fun _ => .pure _
  | _ => exact .throw _

theorem submit_outlook (repository : Path) (spec : Spec) (folder : String) (file : Path) :
    (submit repository spec folder file).Leads (Same World.outlook) :=
  submit_leads (git_outlook repository) Act.print_outlook spec folder file

/-! ## The file -/

/-- The folder of the specifications, by the environment. -/
def shelfOf (w : World) : Path := shelfIn ((Fields.get? w.environment "HOME").getD ".")

/-- The file of a specification in a folder of the shelf. -/
def Spec.fileIn (spec : Spec) (w : World) (folder : String) : Path :=
  ((shelfOf w).join folder).join spec.fileName

/-- A specification that can be written into a folder, with the text of its file and the files that
there are then. -/
structure Spec.Shelved (spec : Spec) (w : World) (folder text : String) (files : Files) : Prop where
  /-- The category can be looked up. -/
  sorted : folderOf spec.category = .ok folder
  /-- The highlights can be listed, and the content is a text. -/
  composed : spec.fileText w.clock.date = .ok text
  /-- No half of a surrogate pair is in it. -/
  encodable : Text.halves? text = none
  room : ∃ tree, w.files.makeFolders ((shelfOf w).join folder) = .ok tree ∧
    tree.write (spec.fileIn w folder) text = .ok files

theorem shelf_apply (w : World) : shelf w = (.ok (shelfOf w), w) := rfl

/-- Once the folders are made, the file is composed and written. -/
theorem keep_of_made {spec : Spec} {w : World} {folder : String} {tree : Files}
    (hsorted : folderOf spec.category = .ok folder)
    (hmade : w.files.makeFolders ((shelfOf w).join folder) = .ok tree) :
    keep spec w = (do
      let text ← Act.look (spec.fileText w.clock.date)
      Act.writeFile (spec.fileIn w folder) text
      Act.print ("✅ Wrote " ++ (spec.fileIn w folder).text)
      submit (shelfOf w).parent.parent spec folder (spec.fileIn w folder))
        { w with files := tree } := by
  have hfolders : Act.makeFolders ((shelfOf w).join folder) w =
      (.ok (), { w with files := tree }) := by
    rw [Act.makeFolders_apply, hmade]
  have hnow : Act.now { w with files := tree } = (.ok w.clock, { w with files := tree }) := rfl
  rw [keep, hsorted, Act.bind_of_ok (Act.look_ok folder w), Act.bind_of_ok (shelf_apply w),
    Act.bind_of_ok hfolders, Act.bind_of_ok hnow]
  rfl

/-- The world in which the file was written and this was said. -/
def Spec.shelving (spec : Spec) (w : World) (folder : String) (files : Files) : World :=
  ({ w with files } : World).record (.out ("✅ Wrote " ++ (spec.fileIn w folder).text ++ "\n"))

/-- Once the file is written, it is submitted. -/
theorem keep_of_shelved {spec : Spec} {w : World} {folder text : String} {files : Files}
    (h : spec.Shelved w folder text files) :
    keep spec w = submit (shelfOf w).parent.parent spec folder (spec.fileIn w folder)
      (spec.shelving w folder files) := by
  obtain ⟨tree, hmake, hwrite⟩ := h.room
  have hfile : Act.writeFile (spec.fileIn w folder) text { w with files := tree } =
      (.ok (), { w with files }) := by
    rw [Act.writeFile_apply, h.encodable]
    simp only [Option.isSome_none, Bool.false_eq_true, if_false, hwrite]
  rw [keep_of_made h.sorted hmake, h.composed, Act.bind_of_ok (Act.look_ok text _)]
  refine (Act.bind_of_ok hfile).trans ?_
  exact Act.bind_of_ok (Act.print_apply _ _)

/-- What was kept was written into its file. -/
theorem shelved_of_keep {spec : Spec} {w w' : World} {url : String}
    (h : keep spec w = (.ok url, w')) : ∃ folder text files, spec.Shelved w folder text files := by
  obtain ⟨folder, w₁, hlook, h₁⟩ := Act.of_bind_eq_ok h
  obtain ⟨hfolder, rfl⟩ := Act.of_look_eq_ok hlook
  rw [Act.bind_of_ok (shelf_apply w₁)] at h₁
  obtain ⟨_, w₂, hfolders, h₂⟩ := Act.of_bind_eq_ok h₁
  obtain ⟨tree, hmake, rfl⟩ := Act.of_makeFolders_eq_ok hfolders
  obtain ⟨now, w₃, hnow, h₃⟩ := Act.of_bind_eq_ok h₂
  cases hnow
  obtain ⟨text, w₄, hlook, h₄⟩ := Act.of_bind_eq_ok h₃
  obtain ⟨htext, rfl⟩ := Act.of_look_eq_ok hlook
  obtain ⟨_, w₅, hfile, -⟩ := Act.of_bind_eq_ok h₄
  obtain ⟨hhalves, files, hwrite, -⟩ := Act.of_writeFile_eq_ok hfile
  exact ⟨folder, text, files, hfolder, htext, hhalves, tree, hmake, hwrite⟩

theorem keep_outlook (spec : Spec) : (keep spec).Leads (Same World.outlook) := by
  have hfolders (p : Path) : (Act.makeFolders p).Leads (Same World.outlook) := by
    intro w
    rw [Act.makeFolders_apply]
    split <;> rfl
  have hfile (p : Path) (text : String) : (Act.writeFile p text).Leads (Same World.outlook) := by
    intro w
    rw [Act.writeFile_apply]
    split <;> rfl
  exact .bind (.look _) fun _ => .bind (fun _ => rfl) fun _ => .bind (hfolders _) fun _ =>
    .bind (fun _ => rfl) fun _ => .bind (.look _) fun _ => .bind (hfile _ _) fun _ =>
    .bind (Act.print_outlook _) fun _ => submit_outlook _ _ _ _

/-! ## Where it is kept -/

/-- The commands by which the file of a specification in a folder is submitted. -/
def Spec.commands (spec : Spec) (w : World) (folder : String) : List Command :=
  (spec.steps (spec.fileIn w folder)).map (gitCommand (shelfOf w).parent.parent)

/-- What it takes to keep a specification. -/
structure Spec.Keepable (spec : Spec) (w : World) : Prop where
  shelved : ∃ folder text files, spec.Shelved w folder text files
  /-- The system takes the arguments of the commands that come to be run, the title among them. -/
  started : ∀ folder, folderOf spec.category = .ok folder →
    Starts w.system w.commands (spec.commands w folder)
  run : verdict 3 w.commands ≠ .broken

/-- Where a specification is said to be once it is kept. -/
inductive Spec.KeptAt (spec : Spec) (w : World) : String → Prop
  | pushed {folder : String} (hfolder : folderOf spec.category = .ok folder)
    (hgit : verdict 3 w.commands = .done) : spec.KeptAt w (spec.address folder)
  | unpushed {folder : String} (hfolder : folderOf spec.category = .ok folder)
    (hgit : verdict 3 w.commands = .refused) : spec.KeptAt w (spec.fileIn w folder).text

/-- A specification is kept just when that can be done, and then the result says where. -/
theorem keep_kept (spec : Spec) (w : World) :
    (spec.Keepable w ∧ ∃ url, (keep spec w).1 = .ok url ∧ spec.KeptAt w url) ∨
      ¬spec.Keepable w ∧ ∃ f, (keep spec w).1 = .error f := by
  by_cases hshelved : ∃ folder text files, spec.Shelved w folder text files
  · obtain ⟨folder, text, files, h⟩ := hshelved
    have hsubmit := submit_cases (shelfOf w).parent.parent spec folder (spec.fileIn w folder)
      (spec.shelving w folder files)
    rw [← keep_of_shelved h] at hsubmit
    have hcommands : (spec.shelving w folder files).commands = w.commands := rfl
    have hsystem : (spec.shelving w folder files).system = w.system := rfl
    by_cases hstarts : Starts w.system w.commands (spec.commands w folder)
    · have hstarted : ∀ folder', folderOf spec.category = .ok folder' →
          Starts w.system w.commands (spec.commands w folder') := by
        intro folder' hfolder
        rw [h.sorted] at hfolder
        cases hfolder
        exact hstarts
      rw [verdictOf_forM_git (by rwa [hcommands, hsystem]), hcommands] at hsubmit
      change match verdict 3 w.commands with | .done => _ | .refused => _ | .broken => _ at hsubmit
      cases hgit : verdict 3 w.commands with
      | done =>
          rw [hgit] at hsubmit
          exact .inl ⟨⟨⟨folder, text, files, h⟩, hstarted, by simp [hgit]⟩, _, hsubmit,
            .pushed h.sorted hgit⟩
      | refused =>
          rw [hgit] at hsubmit
          exact .inl ⟨⟨⟨folder, text, files, h⟩, hstarted, by simp [hgit]⟩, _, hsubmit,
            .unpushed h.sorted hgit⟩
      | broken =>
          rw [hgit] at hsubmit
          exact .inr ⟨fun hkeep => hkeep.run hgit, hsubmit⟩
    · rw [← hcommands, ← hsystem] at hstarts
      obtain ⟨begun, command, later, e, w', -, -, -, hrun, -⟩ := forM_git_of_not_starts hstarts
      rw [hrun, verdictOf_startFault] at hsubmit
      exact .inr ⟨fun hkeep => hstarts (hkeep.started folder h.sorted), hsubmit⟩
  · refine .inr ⟨fun hkeep => hshelved hkeep.shelved, ?_⟩
    rcases hrun : keep spec w with ⟨r, w'⟩
    cases r with
    | ok url => exact absurd (shelved_of_keep hrun) hshelved
    | error f => exact ⟨f, rfl⟩

/-! ## In a world that is the same -/

section

variable {spec : Spec} {w w' : World}

theorem Spec.Shelved.congr (h : Same World.stage w w') {folder text : String} {files : Files}
    (hspec : spec.Shelved w folder text files) : spec.Shelved w' folder text files := by
  have hclock : w'.clock = w.clock := congrArg (·.outlook.clock) h
  have henvironment : w'.environment = w.environment := congrArg Stage.environment h
  have hfiles : w'.files = w.files := congrArg Stage.files h
  have hshelf : shelfOf w' = shelfOf w := by rw [shelfOf, henvironment, shelfOf]
  refine ⟨hspec.sorted, hclock ▸ hspec.composed, hspec.encodable, ?_⟩
  rw [Spec.fileIn, hfiles, hshelf]
  exact hspec.room

theorem Spec.Keepable.congr (h : Same World.stage w w') (hspec : spec.Keepable w) :
    spec.Keepable w' := by
  obtain ⟨folder, text, files, hshelved⟩ := hspec.shelved
  have hcommands : w'.commands = w.commands := congrArg Stage.commands h
  have hsystem : w'.system = w.system := congrArg Stage.system h
  have henvironment : w'.environment = w.environment := congrArg Stage.environment h
  refine ⟨⟨folder, text, files, hshelved.congr h⟩, fun folder hfolder => ?_, hcommands ▸ hspec.run⟩
  have hsame : spec.commands w' folder = spec.commands w folder := by
    simp only [Spec.commands, Spec.fileIn, shelfOf, henvironment]
  rw [hcommands, hsystem, hsame]
  exact hspec.started folder hfolder

theorem Spec.KeptAt.congr (h : Same World.stage w w') {url : String} (hurl : spec.KeptAt w url) :
    spec.KeptAt w' url := by
  have hcommands : w'.commands = w.commands := congrArg Stage.commands h
  have henvironment : w'.environment = w.environment := congrArg Stage.environment h
  cases hurl with
  | pushed hfolder hgit => exact .pushed hfolder (hcommands ▸ hgit)
  | @unpushed folder hfolder hgit =>
      have hfile : spec.fileIn w' folder = spec.fileIn w folder := by
        simp only [Spec.fileIn, shelfOf, henvironment]
      rw [← hfile]
      exact .unpushed hfolder (hcommands ▸ hgit)

end

end Persona.Scribe
