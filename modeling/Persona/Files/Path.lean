import Persona.Text.Search

/-!
# Paths

A path starts somewhere and goes on with its parts, without empty parts and single dots. Two dots
stay: only the files themselves say where they lead.
-/

namespace Persona

/-- Where a path starts. -/
inductive Anchor where
  /-- In the home folder, which is not named. -/
  | here
  /-- In the home folder, named in full. -/
  | home
  /-- At the root of all folders, written with one slash or with exactly two. -/
  | root (double : Bool)
  deriving DecidableEq, Repr

/-- How the start of a path is written, before its parts. -/
def Anchor.text : Anchor → String
  | here => ""
  | home => "$ROOT/"
  | root double => if double then "//" else "/"

structure Path where
  anchor : Anchor
  parts : List String
  deriving DecidableEq, Repr

namespace Path

/-- The home folder, named in full. -/
def home : Path := ⟨.home, []⟩

/-- The leading slashes that count: none, one, or exactly two. -/
def anchorOf (cs : List Char) : Anchor :=
  match cs.takeWhile (· == '/') with
  | [] => .here
  | ['/', '/'] => .root true
  | _ => .root false

def ofText (s : String) : Path :=
  ⟨anchorOf s.toList, (Text.split s "/").filter fun p => p != "" && p != "."⟩

def text (p : Path) : String :=
  match p.anchor, p.parts with
  | .here, [] => "."
  | .home, [] => "$ROOT"
  | anchor, parts => anchor.text ++ "/".intercalate parts

/-- A path below this one; a path with a root of its own stands alone. -/
def join (p : Path) (below : String) : Path :=
  let q := ofText below
  if q.anchor = .here then ⟨p.anchor, p.parts ++ q.parts⟩ else q

def parent (p : Path) : Path := ⟨p.anchor, p.parts.dropLast⟩

/-- The last part. -/
def name (p : Path) : String := p.parts.getLastD ""

end Path

end Persona
