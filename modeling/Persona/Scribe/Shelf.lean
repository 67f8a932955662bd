import Persona.Scribe.Spec

/-!
# The shelf

Where specifications are kept: a folder of a repository for each category. A new one is written
there, committed and pushed.
-/

namespace Persona.Scribe

/-- The folder of the specifications for a user with this folder. -/
def shelfIn (folder : String) : Path :=
  Path.ofText (Text.trimEndWhere (· == '/') folder ++ "/IdeaProjects/phi/specs/phi-core")

/-- The folder of the specifications in the repository. -/
def shelf : Act Path := return shelfIn (← Act.getEnvOr "HOME" ".")

def categoryFolders : List (String × String) :=
  [("languages", "examples/languages"), ("domains", "examples"),
   ("type-theory", "examples/type-theory"), ("xforms", "examples/xforms"),
   ("music", "examples/music"), ("physics", "examples/physics"), ("meta", "examples/meta")]

/-- The folder of a category; what is no known one goes to the languages. A list or an object
cannot be looked up. -/
def folderOf (category : Json) : Except Mismatch String :=
  match category with
  | .str s => .ok ((Fields.get? categoryFolders s).getD "examples/languages")
  | .arr _ => .error (.notHashable "list")
  | .obj _ => .error (.notHashable "dict")
  | _ => .ok "examples/languages"

namespace Spec

/-- The name of the file that holds it. -/
def fileName (spec : Spec) : String := spec.name.text ++ ".phi"

/-- What stands above the content. -/
def header (spec : Spec) (date : Date) : Except Mismatch String := do
  let highlights ← spec.highlights.items
  return Text.ofLines [
      "-- " ++ spec.title.text, "-- Generated by Phi Oracle on " ++ date.plainText, "-- ",
      "-- " ++ spec.summary.text, "--", "-- Highlights:", ""] ++
    String.join (highlights.map fun h => "--   • " ++ h.text ++ "\n") ++ "--\n\n"

/-- The text of the file. -/
def fileText (spec : Spec) (date : Date) : Except Mismatch String := do
  let header ← spec.header date
  match spec.content with
  | .str s => return header ++ s
  | v => .error (.notAppendable v.kindName)

/-- The address of the file once it is pushed. -/
def address (spec : Spec) (folder : String) : String :=
  "https://github.com/eurisko-info-lab/phi/blob/main/specs/phi-core/" ++ folder ++ "/" ++
    spec.fileName

end Spec

/-- Run a git command in the repository. -/
def git (repository : Path) (arguments : List String) : Act Unit :=
  discard (Act.execute { arguments := "git" :: arguments, folder := some repository.text })

/-- Commit a file and push it. -/
def push (repository : Path) (spec : Spec) (file : Path) : Act Unit := do
  git repository ["add", file.text]
  git repository ["commit", "-m", "feat: Add " ++ spec.fileName ++ " - " ++ spec.title.text]
  git repository ["push"]

/-- Commit a file and push it: its address, or its path if git refused. -/
def submit (repository : Path) (spec : Spec) (folder : String) (file : Path) : Act String :=
  tryCatch
    (do
      push repository spec file
      Act.print "✅ Pushed to GitHub"
      return spec.address folder)
    fun f => match f with
      | .command .. => do
        Act.print ("⚠️ Git operation failed: " ++ f.message)
        return file.text
      | f => throw f

/-- Keep a specification: the address of the pushed file, or its path if git refused. -/
def keep (spec : Spec) : Act String := do
  let folder ← Act.look (folderOf spec.category)
  let shelf ← shelf
  Act.makeFolders (shelf.join folder)
  let file := (shelf.join folder).join spec.fileName
  let text ← Act.look (spec.fileText (← Act.now).date)
  Act.writeFile file text
  Act.print ("✅ Wrote " ++ file.text)
  submit shelf.parent.parent spec folder file

end Persona.Scribe
