import Persona.Text.CodePoint

/-!
# Searching a text

Occurrence, splitting and replacing of a pattern inside a text, on characters. The leftmost
occurrence always counts first, and a replaced occurrence is not looked at again.
-/

namespace Persona.Text

/-- `pattern` starts `cs`: what follows it, if it does. -/
def dropPattern? : List Char → List Char → Option (List Char)
  | [], cs => some cs
  | _ :: _, [] => none
  | p :: ps, c :: cs => if p = c then dropPattern? ps cs else none

theorem dropPattern?_eq_some {p cs rest : List Char} :
    dropPattern? p cs = some rest ↔ cs = p ++ rest := by
  induction p generalizing cs with
  | nil => simp [dropPattern?, eq_comm]
  | cons x ps ih =>
    cases cs with
    | nil => simp [dropPattern?]
    | cons c cs =>
      by_cases h : x = c
      · simp [dropPattern?, h, ih]
      · simp [dropPattern?, h, Ne.symm h]

/-- The text before and after the first occurrence of `pattern`. -/
def cut? (pattern : List Char) : List Char → Option (List Char × List Char)
  | [] => if pattern.isEmpty then some ([], []) else none
  | c :: cs =>
    match dropPattern? pattern (c :: cs) with
    | some rest => some ([], rest)
    | none => (cut? pattern cs).map fun (a, b) => (c :: a, b)

/-- What is cut apart fits together again around the pattern. -/
theorem eq_append_of_cut? {p cs a b : List Char} (h : cut? p cs = some (a, b)) :
    cs = a ++ p ++ b := by
  induction cs generalizing a b with
  | nil =>
    simp only [cut?] at h
    split at h <;> simp_all
  | cons c cs ih =>
    simp only [cut?] at h
    split at h
    · rename_i rest hr
      obtain ⟨rfl, rfl⟩ := by simpa using h
      simpa using dropPattern?_eq_some.1 hr
    · obtain ⟨⟨x, y⟩, hx, he⟩ := Option.map_eq_some_iff.1 h
      obtain ⟨rfl, rfl⟩ := by simpa using he
      simp [ih hx]

/-- Some occurrence of `pattern` lies in `s`. -/
def contains (s pattern : String) : Bool :=
  (cut? pattern.toList s.toList).isSome

def startsWith (s pattern : String) : Bool :=
  (dropPattern? pattern.toList s.toList).isSome

def endsWith (s pattern : String) : Bool :=
  (dropPattern? pattern.toList.reverse s.toList.reverse).isSome

/-- The text before and after the first occurrence of `pattern`. -/
def splitOnce (s pattern : String) : Option (String × String) :=
  (cut? pattern.toList s.toList).map fun (a, b) => (String.ofList a, String.ofList b)

/-- The pieces of `cs` between the occurrences of `pattern`; at most `fuel` cuts are made. -/
def piecesFrom (pattern : List Char) : Nat → List Char → List (List Char)
  | 0, cs => [cs]
  | fuel + 1, cs =>
    match cut? pattern cs with
    | none => [cs]
    | some (a, b) => a :: piecesFrom pattern fuel b

/-- The pieces of a text between the occurrences of a pattern that is not empty. -/
def split (s pattern : String) : List String :=
  (piecesFrom pattern.toList s.toList.length s.toList).map String.ofList

/-- The text with every occurrence of `pattern` replaced. -/
def replace (s pattern replacement : String) : String :=
  replacement.intercalate (split s pattern)

/-- The characters outside the matches, which are found from left to right: `size` is the length of
the match at the start of a text, zero for none, and `skip` characters of a match are still to
come. -/
def dropMatches (size : List Char → Nat) : Nat → List Char → List Char
  | _, [] => []
  | skip + 1, _ :: cs => dropMatches size skip cs
  | 0, c :: cs =>
    match size (c :: cs) with
    | 0 => c :: dropMatches size 0 cs
    | n + 1 => dropMatches size n cs

/-- The first `n` code points. -/
def take (n : Nat) (s : String) : String := ofPoints ((points s).take n)

/-- The code points up to a place, which counts from the end if it is negative. -/
def upTo (place : Int) (s : String) : String :=
  if 0 ≤ place then take place.toNat s else take (size s + place).toNat s

end Persona.Text
