import Persona.Number.Numeral
import Persona.Text.Hexadecimal

/-!
# Punycode

Names of hosts are sent in plain letters. Of a name with other letters, the plain ones stand first;
behind a dash follow the others in ascending order, each as the number of steps from the one before
it: over the places of the name and, after the last place, to the next letter. The numbers are
written to base 36 with the lowest digit first, and how a number ends depends on those before it.
-/

namespace Persona.Gateway.Punycode

/-- The digit at place `j` that a number may end below. -/
def threshold (j bias : Nat) : Nat :=
  let place := 36 * (j + 1)
  if place < bias + 1 then 1 else if bias + 26 < place then 26 else place - bias

theorem threshold_pos (j bias : Nat) : 1 ≤ threshold j bias := by
  unfold threshold
  grind

theorem threshold_le (j bias : Nat) : threshold j bias ≤ 26 := by
  unfold threshold
  grind

/-- Divide until at most 455 is left; each division counts 36. -/
def shrink (delta : Nat) : Nat × Nat :=
  if 455 < delta then
    let (rest, divisions) := shrink (delta / 35)
    (rest, divisions + 36)
  else (delta, 0)
termination_by delta
decreasing_by exact Nat.div_lt_self (by omega) (by omega)

/-- The bias after a number, the first one or a later one, when so many letters are placed. -/
def adapt (delta : Nat) (first : Bool) (placed : Nat) : Nat :=
  let delta := if first then delta / 700 else delta / 2
  let (delta, divisions) := shrink (delta + delta / placed)
  divisions + 36 * delta / (delta + 38)

/-! ## Writing -/

def digitChar (d : Nat) : Char := if d < 26 then Char.ofNat (97 + d) else Char.ofNat (22 + d)

/-- The digits of a number from place `j` on. -/
def digits (bias j n : Nat) : List Char :=
  let t := threshold j bias
  if n < t then [digitChar n]
  else digitChar (t + (n - t) % (36 - t)) :: digits bias (j + 1) ((n - t) / (36 - t))
termination_by n
decreasing_by
  have h₁ := threshold_pos j bias
  have h₂ := threshold_le j bias
  calc (n - threshold j bias) / (36 - threshold j bias)
      ≤ n - threshold j bias := Nat.div_le_self _ _
    _ < n := by omega

/-- How far a name is written: the digits so far, the steps since the last letter, the bias, and the
letters placed. -/
structure Progress where
  written : List Char
  delta : Nat
  bias : Nat
  placed : Nat

/-- Pass one place of the name on the way to the letter `letter`. -/
def Progress.pass (plain letter : Nat) (s : Progress) (here : Nat) : Progress :=
  if here < letter then { s with delta := s.delta + 1 }
  else if here == letter then
    { written := s.written ++ digits s.bias 0 s.delta
      delta := 0
      bias := adapt s.delta (s.placed == plain) (s.placed + 1)
      placed := s.placed + 1 }
  else s

/-- Write the letters that are not plain, each given once and in ascending order; `next` is the
lowest that can come. -/
def encodeLetters (name : List Nat) (plain : Nat) : List Nat → Nat → Progress → Progress
  | [], _, s => s
  | letter :: letters, next, s =>
    let s := { s with delta := s.delta + (letter - next) * (s.placed + 1) }
    let s := name.foldl (Progress.pass plain letter) s
    encodeLetters name plain letters (letter + 1) { s with delta := s.delta + 1 }

def encode (name : List Nat) : List Char :=
  let plain := name.filter (· < 128)
  let letters := ((name.filter (128 ≤ ·)).eraseDups).mergeSort (· ≤ ·)
  let start : Progress := ⟨[], 0, 72, plain.length⟩
  plain.map Char.ofNat ++ (if plain.isEmpty then [] else ['-']) ++
    (encodeLetters name plain.length letters 128 start).written

/-! ## Reading -/

/-- Why a name cannot be read. -/
inductive Error where
  | incomplete
  | digit (c : Char)
  | letter (point : Nat)
  deriving DecidableEq, Repr

def Error.message : Error → String
  | incomplete => "incomplete punicode string"
  | digit c => "Invalid extended code point '" ++ String.ofList [c] ++ "'"
  | letter point => "Invalid character U+" ++ String.ofList (Nat.toDigits 16 point)

def digitValue? (c : Char) : Option Nat :=
  if 'A' ≤ c && c ≤ 'Z' then some (c.toNat - 65)
  else if '0' ≤ c && c ≤ '9' then some (c.toNat - 22)
  else none

/-- A number from place `j` on, where a digit counts `weight`, and the characters after it. -/
def readNumber (bias : Nat) : Nat → Nat → List Char → Except Error (Nat × List Char)
  | _, _, [] => .error .incomplete
  | j, weight, c :: rest =>
    match digitValue? c with
    | none => .error (.digit c)
    | some d =>
      let t := threshold j bias
      if d < t then .ok (d * weight, rest)
      else do
        let (n, rest) ← readNumber bias (j + 1) (weight * (36 - t)) rest
        return (d * weight + n, rest)

/-- Place letters into a name: `place` is where the next one can stand and `letter` the lowest that
it can be. Every letter takes a character, so `fuel` bounds their number. -/
def placeLetters : Nat → Bool → Nat → Nat → Nat → List Nat → List Char → Except Error (List Nat)
  | 0, _, _, _, _, name, _ => .ok name
  | _ + 1, _, _, _, _, name, [] => .ok name
  | fuel + 1, first, bias, place, letter, name, c :: cs => do
    let (delta, rest) ← readNumber bias 0 1 (c :: cs)
    let size := name.length + 1
    let letter := letter + (place + delta) / size
    if 0x10ffff < letter then .error (.letter letter)
    else
      let place := (place + delta) % size
      placeLetters fuel false (adapt delta first size) (place + 1) letter
        (name.insertIdx place letter) rest

/-- The name that is written: behind the last dash stand numbers. -/
def decode (cs : List Char) : Except Error (List Nat) :=
  let numbers := (cs.reverse.takeWhile (· != '-')).reverse
  let plain := (cs.take (cs.length - numbers.length)).dropLast
  placeLetters numbers.length true 72 0 128 (plain.map Char.toNat) (numbers.map Char.toUpper)

end Persona.Gateway.Punycode
