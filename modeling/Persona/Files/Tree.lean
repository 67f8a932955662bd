import Persona.Fields
import Persona.Files.Path

/-!
# Files and folders

The texts that exist and the folders that hold them. A place is the list of names from the home
folder down; places outside it start with two dots or with a slash.
-/

namespace Persona

abbrev Place := List String

structure Files where
  texts : List (Place × String) := []
  folders : List Place := []

namespace Files

/-- Why a path cannot be used. -/
inductive Cause where
  | missing
  | exists
  | notFolder
  | isFolder
  | nameTooLong
  | nulByte
  /-- The path holds half of a surrogate pair. -/
  | unencodable
  deriving DecidableEq, Repr

/-- Why a number cannot stand for an open file. -/
inductive NumberError where
  | tooLarge
  | tooSmall
  deriving DecidableEq, Repr

def text? (t : Files) (place : Place) : Option String := Fields.get? t.texts place

/-- The home folder, what lies above it, and every folder made. -/
def isFolder (t : Files) (place : Place) : Bool :=
  place.all (· == "..") || place == ["/"] || t.folders.contains place

def holds (t : Files) (place : Place) : Bool :=
  t.isFolder place || (t.text? place).isSome

/-- One level up. -/
def above (place : Place) : Place :=
  if place.all (· == "..") then place ++ [".."]
  else if place == ["/"] then place
  else place.dropLast

/-- The number of bytes of a name. -/
def byteSize (name : String) : Nat :=
  (Text.points name).foldl (fun n p => n + if Text.isByteHalf p then 1 else (Char.ofNat p).utf8Size)
    0

/-- The first stretch of a path that no file can have in its name. -/
def unnamable? (path : String) : Option (Nat × List Nat) := Text.firstHalves? Text.isByteHalf path

/-- The most bytes a name may have. -/
def nameLimit : Nat := 255

/-- Follow parts from a place: each place passed must be a folder. -/
def follow (t : Files) : Place → List String → Except Cause Place
  | place, [] => .ok place
  | place, part :: rest =>
    if t.isFolder place then
      if nameLimit < byteSize part then .error .nameTooLong
      else if part == ".." then follow t (above place) rest
      else follow t (place ++ [part]) rest
    else if (t.text? place).isSome then .error .notFolder
    else .error .missing

/-- The bytes that a whole path may not reach. -/
def pathLimit : Nat := 4096

/-- What is wrong with a path as it is written, before any folder is looked at. -/
def checkWritten (s : String) : Except Cause Unit :=
  if (unnamable? s).isSome then .error .unencodable
  else if s.toList.contains (Char.ofNat 0) then .error .nulByte
  else if pathLimit ≤ byteSize s then .error .nameTooLong
  else .ok ()

/-- The place that the parts of a path lead to. -/
def reach (t : Files) (p : Path) : Except Cause Place :=
  match p.anchor with
  | .root _ => follow t ["/"] p.parts
  | _ => follow t [] p.parts

/-- The place that a path names. -/
def locate (t : Files) (p : Path) : Except Cause Place := do
  checkWritten p.text
  t.reach p

/-- The place that a path names, given as it was written: an empty one names nothing, and one that
ends with a slash, or a slash and a dot, names a folder. -/
def locateWritten (t : Files) (s : String) : Except Cause Place := do
  checkWritten s
  if s.isEmpty then .error .missing
  let place ← t.reach (Path.ofText s)
  if (Text.endsWith s "/" || Text.endsWith s "/.") && (t.text? place).isSome then .error .notFolder
  else .ok place

/-- The text at a place. -/
def readPlace (t : Files) (place : Place) : Except Cause String :=
  if t.isFolder place then .error .isFolder
  else match t.text? place with
    | some s => .ok s
    | none => .error .missing

def read (t : Files) (p : Path) : Except Cause String := do t.readPlace (← t.locate p)

/-- The tree with a text put at a place. -/
def put (t : Files) (place : Place) (s : String) : Files :=
  { t with texts := Fields.put t.texts place s }

/-- Write a text into an existing folder. -/
def write (t : Files) (p : Path) (s : String) : Except Cause Files := do
  let place ← t.locate p
  if t.isFolder place then .error .isFolder else .ok (t.put place s)

def addFolder (t : Files) (place : Place) : Files :=
  if t.isFolder place then t else { t with folders := t.folders ++ [place] }

/-- The folders above a place, from the top down. -/
def ancestors (place : Place) : List Place :=
  (List.range place.length).map place.take

/-- Put a text and make the folders above it. -/
def plant (t : Files) (place : Place) (s : String) : Files :=
  ((ancestors place).foldl addFolder t).put place s

def remove (t : Files) (place : Place) : Files :=
  { t with texts := Fields.erase t.texts place }

/-- A path names a text or a folder. Only a name that is too long is an error. -/
def exists? (t : Files) (p : Path) : Except Cause Bool :=
  match t.locate p with
  | .ok place => .ok (t.holds place)
  | .error .nameTooLong => .error .nameTooLong
  | .error _ => .ok false

/-- Make one folder below an existing one. -/
def makeFolder (t : Files) (p : Path) : Except Cause Files := do
  let place ← t.locate p
  if t.holds place then .error .exists else .ok (t.addFolder place)

/-- After a failure to make a folder: one that is there already is kept. -/
def keepFolder (t : Files) (here : Path) (c : Cause) : Except (Cause × Path) Files :=
  match t.locate here with
  | .ok place => if t.isFolder place then .ok t else .error (c, here)
  | .error _ => .error (c, here)

/-- Make the folder with `depth` of the path's parts, and those above it as far as they are
missing; one that is there is kept. A failure names the path that could not be made. -/
def makeFoldersTo (t : Files) (p : Path) : Nat → Except (Cause × Path) Files
  | 0 => .ok t
  | depth + 1 =>
    let here : Path := ⟨p.anchor, p.parts.take (depth + 1)⟩
    match t.makeFolder here with
    | .ok t => .ok t
    | .error .missing =>
      match makeFoldersTo t p depth with
      | .error e => .error e
      | .ok t => match t.makeFolder here with
        | .ok t => .ok t
        | .error c => t.keepFolder here c
    | .error c => t.keepFolder here c

/-- Make a folder and those above it. -/
def makeFolders (t : Files) (p : Path) : Except (Cause × Path) Files :=
  makeFoldersTo t p p.parts.length

/-- The paths below `p`, at any depth, of texts and folders whose name ends with `ending`, sorted
by their text. -/
def endingWith (t : Files) (p : Path) (ending : String) : List String :=
  match t.locate p with
  | .error _ => []
  | .ok base =>
    let below := (t.texts.map (·.1) ++ t.folders).filter fun place =>
      base.isPrefixOf place && base.length < place.length &&
        Text.endsWith (place.getLastD "") ending
    let paths := below.map fun place => (⟨p.anchor, p.parts ++ place.drop base.length⟩ : Path).text
    paths.mergeSort fun a b => (Text.order a b).isLE

end Files

end Persona
