import Persona.Gateway.Decomposition

/-!
# Normal form

A text can be written in several ways that look alike. In normal form, characters are taken apart
into what they are made of, marks stand behind their base in the order of their classes, and what
can be one character is. The syllables of Hangul are taken apart and put together by calculation.
-/

namespace Persona.Gateway

/-! ## Hangul -/

def syllableBase : Nat := 0xac00
def leadBase : Nat := 0x1100
def vowelBase : Nat := 0x1161
/-- One before the first trailing consonant. -/
def trailBase : Nat := 0x11a7

/-- The letters of a syllable. -/
def syllableLetters (point : Nat) : List Nat :=
  let i := point - syllableBase
  let trail := i % 28
  [leadBase + i / 588, vowelBase + i % 588 / 28] ++ if trail == 0 then [] else [trailBase + trail]

def isSyllable (point : Nat) : Bool := syllableBase ≤ point && point < syllableBase + 11172

def isLead (point : Nat) : Bool := leadBase ≤ point && point < leadBase + 19

def isVowel (point : Nat) : Bool := vowelBase ≤ point && point < vowelBase + 21

def isTrail (point : Nat) : Bool := trailBase < point && point < trailBase + 28

/-- The syllable of a lead, a vowel and a trail, which is zero without a trailing consonant. -/
def syllable (lead vowel trail : Nat) : Nat :=
  syllableBase + ((lead - leadBase) * 21 + (vowel - vowelBase)) * 28 + trail

/-! ## Taking apart -/

/-- What a character is made of. -/
def parts (point : Nat) : List Nat :=
  if isSyllable point then syllableLetters point else (decomposition? point).getD [point]

/-- Put a character behind others, which stand nearest first: a mark goes before marks of a higher
class. -/
def settle (point : Nat) : List Nat → List Nat
  | [] => [point]
  | before :: rest =>
    if markClass point != 0 && markClass point < markClass before then before :: settle point rest
    else point :: before :: rest

/-- Characters with their marks in the order of their classes. -/
def inOrder (ps : List Nat) : List Nat := (ps.foldl (fun done p => settle p done) []).reverse

/-! ## Putting together -/

/-- A character with all that combines with it among those that follow, and what is left of these.
A mark is blocked by one before it that is left and is not of a lower class; `blocking` is the class
of the last one left, zero for none. -/
def combine (point blocking : Nat) : List Nat → Nat × List Nat
  | [] => (point, [])
  | next :: rest =>
    let c := markClass next
    if blocking != 0 && c == 0 then (point, next :: rest)
    else if blocking != 0 && c ≤ blocking then
      let (point, left) := combine point blocking rest
      (point, next :: left)
    else match composition? point next with
      | some both => combine both blocking rest
      | none =>
        if c == 0 then (point, next :: rest)
        else
          let (point, left) := combine point c rest
          (point, next :: left)

/-- Put characters together from the front; `fuel` bounds their number. -/
def composeFrom : Nat → List Nat → List Nat
  | 0, ps => ps
  | _ + 1, [] => []
  | fuel + 1, p :: rest =>
    match rest with
    | v :: after =>
      if isLead p && isVowel v then
        match after with
        | t :: others =>
          if isTrail t then syllable p v (t - trailBase) :: composeFrom fuel others
          else syllable p v 0 :: composeFrom fuel after
        | [] => [syllable p v 0]
      else
        let (p, left) := combine p 0 rest
        p :: composeFrom fuel left
    | [] => [p]

/-- The normal form of a text, by code points. -/
def normalForm (ps : List Nat) : List Nat :=
  let ps := inOrder (ps.flatMap parts)
  composeFrom ps.length ps

end Persona.Gateway
