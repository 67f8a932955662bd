/-!
# Code points

A text is a sequence of code points. Nearly all of them are characters; the others are halves of
surrogate pairs, which an escape in a JSON text can name and which are written again as they were
read. A `String` holds such a half as two characters: a mark, which is the last character of all,
and a character of private use that tells which half it is. The mark itself is held doubled. Counting,
cutting and comparing go by code points.
-/

namespace Persona.Text

/-- A code point that is half of a pair. -/
def isHalf (point : Nat) : Bool := 0xd800 ≤ point && point ≤ 0xdfff

/-- The character that goes before one that tells a half. -/
def mark : Char := Char.ofNat 0x10ffff

/-- The characters that hold a code point. -/
def hold (point : Nat) : List Char :=
  if isHalf point then [mark, Char.ofNat (point + 0x800)]
  else if point = 0x10ffff then [mark, mark]
  else [Char.ofNat point]

/-- The code point that a character holds behind a mark. -/
def held? (c : Char) : Option Nat :=
  if c = mark then some 0x10ffff
  else if 0xe000 ≤ c.toNat && c.toNat ≤ 0xe7ff then some (c.toNat - 0x800)
  else none

/-- The code points that characters hold. -/
def pointsOf : List Char → List Nat
  | [] => []
  | [c] => [c.toNat]
  | c :: d :: rest =>
    if c = mark then
      match held? d with
      | some point => point :: pointsOf rest
      | none => c.toNat :: pointsOf (d :: rest)
    else c.toNat :: pointsOf (d :: rest)

def points (s : String) : List Nat := pointsOf s.toList

def ofPoints (ps : List Nat) : String := String.ofList (ps.flatMap hold)

/-- The text of plain characters, none of them a mark for another one. -/
def ofPlain (s : String) : String := ofPoints (s.toList.map Char.toNat)

/-- The number of code points. -/
def size (s : String) : Nat := (points s).length

/-- The code points, each as a text of its own. -/
def singles (s : String) : List String := (points s).map fun p => ofPoints [p]

/-- The first code points that differ decide; of a text and a longer one that starts with it, the
longer one is the greater. -/
def comparePoints : List Nat → List Nat → Ordering
  | [], [] => .eq
  | [], _ :: _ => .lt
  | _ :: _, [] => .gt
  | p :: ps, q :: qs => if p < q then .lt else if q < p then .gt else comparePoints ps qs

def order (s t : String) : Ordering := comparePoints (points s) (points t)

/-! ## Holding and reading back -/

theorem toNat_ofNat {n : Nat} (h : n.isValidChar) : (Char.ofNat n).toNat = n := by
  rw [Char.ofNat, dif_pos h]
  rfl

theorem toNat_mark : mark.toNat = 0x10ffff := rfl

theorem pointsOf_cons_of_ne {c : Char} (h : c ≠ mark) (cs : List Char) :
    pointsOf (c :: cs) = c.toNat :: pointsOf cs := by
  cases cs with
  | nil => rfl
  | cons d rest => rw [pointsOf, if_neg h]

theorem pointsOf_mark_cons {d : Char} {point : Nat} (h : held? d = some point) (cs : List Char) :
    pointsOf (mark :: d :: cs) = point :: pointsOf cs := by
  rw [pointsOf, if_pos rfl, h]

theorem ne_mark_of_toNat {c : Char} (h : c.toNat ≠ 0x10ffff) : c ≠ mark := by
  rintro rfl
  exact h toNat_mark

/-- A code point that is held is read back, whatever follows it. -/
theorem pointsOf_hold_append {point : Nat} (h : point < 0x110000) (cs : List Char) :
    pointsOf (hold point ++ cs) = point :: pointsOf cs := by
  unfold hold
  split
  · rename_i hh
    simp only [isHalf, Bool.and_eq_true, decide_eq_true_eq] at hh
    have hn : (Char.ofNat (point + 0x800)).toNat = point + 0x800 :=
      toNat_ofNat (Or.inr ⟨by omega, by omega⟩)
    refine pointsOf_mark_cons ?_ cs
    rw [held?, if_neg (ne_mark_of_toNat (by omega)), hn, if_pos, Nat.add_sub_cancel]
    simp only [Bool.and_eq_true, decide_eq_true_eq]
    omega
  · rename_i hh
    simp only [isHalf, Bool.and_eq_true, decide_eq_true_eq] at hh
    split
    · rename_i he
      subst he
      exact pointsOf_mark_cons (by rw [held?, if_pos rfl]) cs
    · have hn : (Char.ofNat point).toNat = point := by
        apply toNat_ofNat
        by_cases hl : point < 0xd800
        · exact Or.inl hl
        · exact Or.inr ⟨by omega, by omega⟩
      have := pointsOf_cons_of_ne (ne_mark_of_toNat (by omega) : Char.ofNat point ≠ mark) cs
      rwa [hn] at this

/-- Code points that a text is made of are read back. -/
theorem points_ofPoints {ps : List Nat} (h : ∀ p ∈ ps, p < 0x110000) :
    points (ofPoints ps) = ps := by
  rw [points, ofPoints, String.toList_ofList]
  induction ps with
  | nil => rfl
  | cons p ps ih =>
    rw [List.flatMap_cons, pointsOf_hold_append (h p (by simp)),
      ih fun q hq => h q (List.mem_cons_of_mem _ hq)]

/-! ## Code units -/

/-- Join code units: a surrogate with its partner becomes one code point, and one without stays half
of a pair. What is no surrogate stands for itself. -/
def joinUnits : List Nat → List Char
  | [] => []
  | [u] => if isHalf u then hold u else [Char.ofNat u]
  | u :: v :: rest =>
    if 0xd800 ≤ u && u ≤ 0xdbff && 0xdc00 ≤ v && v ≤ 0xdfff then
      hold (0x10000 + (u - 0xd800) * 0x400 + (v - 0xdc00)) ++ joinUnits rest
    else (if isHalf u then hold u else [Char.ofNat u]) ++ joinUnits (v :: rest)

/-! ## Texts without bytes -/

/-- Where the first stretch of halves lies in a text, from one that is not allowed on, and the halves
themselves. -/
def firstHalves? (isAllowed : Nat → Bool) (s : String) : Option (Nat × List Nat) :=
  let before := (points s).takeWhile fun p => !isHalf p || isAllowed p
  match ((points s).drop before.length).takeWhile isHalf with
  | [] => none
  | halves => some (before.length, halves)

/-- A half that is allowed in the name of a file, where it stands for a single byte. -/
def isByteHalf (point : Nat) : Bool := 0xdc80 ≤ point && point ≤ 0xdcff

/-- The halves of pairs that keep a text from having bytes. -/
def halves? (s : String) : Option (Nat × List Nat) := firstHalves? (fun _ => false) s

end Persona.Text
