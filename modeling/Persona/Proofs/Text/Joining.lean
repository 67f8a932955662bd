import Persona.Text.CodePoint

/-!
# Code points through code units

A code point above the basic plane is a pair of code units, every other one a single unit. Joining
the units of a text gives back its code points, as long as no two halves of a pair stand side by
side as code points of their own: those would become one.

Main statement: `joinUnits_flatMap_unitsOf`.
-/

namespace Persona.Text

/-- The code units of a code point. -/
def unitsOf (point : Nat) : List Nat :=
  if point < 0x10000 then [point]
  else [0xd800 + (point - 0x10000) / 0x400, 0xdc00 + (point - 0x10000) % 0x400]

/-- A half that opens a pair. -/
def isHigh (point : Nat) : Bool := 0xd800 ≤ point && point ≤ 0xdbff

/-- A half that closes a pair. -/
def isLow (point : Nat) : Bool := 0xdc00 ≤ point && point ≤ 0xdfff

/-- Code points among which no pair stands split into its halves. -/
def Joined : List Nat → Prop
  | [] => True
  | [p] => p < 0x110000
  | p :: q :: rest => p < 0x110000 ∧ ¬(isHigh p = true ∧ isLow q = true) ∧ Joined (q :: rest)

/-- A text of code points among which no pair stands split: what a reader of JSON can give. -/
def Sound (s : String) : Prop := ∃ ps, Joined ps ∧ s = ofPoints ps

theorem Joined.tail {p : Nat} {ps : List Nat} (h : Joined (p :: ps)) : Joined ps := by
  cases ps with
  | nil => trivial
  | cons q rest => exact h.2.2

theorem Joined.head_lt {p : Nat} {ps : List Nat} (h : Joined (p :: ps)) : p < 0x110000 := by
  cases ps with
  | nil => exact h
  | cons q rest => exact h.1

theorem Joined.lt {ps : List Nat} (h : Joined ps) : ∀ p ∈ ps, p < 0x110000 := by
  induction ps with
  | nil => simp
  | cons p ps ih =>
      intro q hq
      rcases List.mem_cons.mp hq with rfl | hq
      · exact h.head_lt
      · exact ih h.tail q hq

/-- Characters that are no halves make joined code points. -/
theorem joined_of_not_isHalf {ps : List Nat} (h : ∀ p ∈ ps, p < 0x110000 ∧ isHalf p = false) :
    Joined ps := by
  induction ps with
  | nil => trivial
  | cons p ps ih =>
      have hps := ih fun q hq => h q (List.mem_cons_of_mem p hq)
      cases ps with
      | nil => exact (h p (by simp)).1
      | cons q rest =>
          refine ⟨(h p (by simp)).1, ?_, hps⟩
          have hp := (h p (by simp)).2
          simp only [isHalf, isHigh, isLow, Bool.and_eq_true, decide_eq_true_eq, Bool.and_eq_false_iff,
            decide_eq_false_iff_not] at hp ⊢
          omega

/-- The code points of a sound text are those it is made of. -/
theorem Sound.points {s : String} (h : Sound s) :
    Joined (points s) ∧ s = ofPoints (Text.points s) := by
  obtain ⟨ps, hps, rfl⟩ := h
  rw [points_ofPoints hps.lt]
  exact ⟨hps, rfl⟩

/-- No character is half of a pair. -/
theorem isHalf_toNat (c : Char) : isHalf c.toNat = false := by
  simp only [isHalf, Bool.and_eq_false_iff, decide_eq_false_iff_not]
  rcases c.valid with hlow | ⟨hhigh, -⟩
  · left
    change c.toNat < 0xd800 at hlow
    omega
  · right
    change 0xdfff < c.toNat at hhigh
    omega

theorem toNat_lt (c : Char) : c.toNat < 0x110000 := by
  rcases c.valid with hlow | ⟨-, hhigh⟩
  · change c.toNat < 0xd800 at hlow
    omega
  · exact hhigh

theorem hold_toNat {c : Char} (h : c ≠ mark) : hold c.toNat = [c] := by
  have hmark : c.toNat ≠ 0x10ffff := fun he => h (Char.toNat_inj.mp (he.trans toNat_mark.symm))
  rw [hold, isHalf_toNat, if_neg Bool.false_ne_true, if_neg hmark, Char.ofNat_toNat]

theorem flatMap_hold_toNat {cs : List Char} (h : mark ∉ cs) :
    (cs.map Char.toNat).flatMap hold = cs := by
  induction cs with
  | nil => rfl
  | cons c cs ih =>
      rw [List.mem_cons, not_or] at h
      rw [List.map_cons, List.flatMap_cons, hold_toNat (Ne.symm h.1), ih h.2, List.singleton_append]

/-- Characters stand for themselves in a text; only the mark would speak for another one. -/
theorem sound_of_not_mem_mark {s : String} (h : mark ∉ s.toList) : Sound s := by
  refine ⟨s.toList.map Char.toNat, joined_of_not_isHalf ?_, ?_⟩
  · intro p hp
    obtain ⟨c, -, rfl⟩ := List.mem_map.mp hp
    exact ⟨toNat_lt c, isHalf_toNat c⟩
  · rw [ofPoints, flatMap_hold_toNat h, String.ofList_toList]

/-! ## Joining -/

/-- One unit that does not open a pair stands for itself. -/
theorem hold_of_lt {u : Nat} (h : u < 0x10000) :
    (if isHalf u then hold u else [Char.ofNat u]) = hold u := by
  split
  · rfl
  · rename_i hu
    rw [hold, if_neg hu, if_neg (by omega)]

theorem joinUnits_pair {p : Nat} (h : 0x10000 ≤ p) (h' : p < 0x110000) (us : List Nat) :
    joinUnits (unitsOf p ++ us) = hold p ++ joinUnits us := by
  have hp : 0x10000 + (0xd800 + (p - 0x10000) / 0x400 - 0xd800) * 0x400 +
      (0xdc00 + (p - 0x10000) % 0x400 - 0xdc00) = p := by omega
  rw [unitsOf, if_neg (by omega)]
  simp only [List.cons_append, List.nil_append]
  rw [joinUnits, if_pos, hp]
  simp only [Bool.and_eq_true, decide_eq_true_eq]
  omega

/-- The unit after which `us` goes on is no high half with a low one behind it. -/
theorem joinUnits_single {p : Nat} (h : p < 0x10000) (us : List Nat)
    (hus : ∀ u ∈ us.head?, ¬(isHigh p = true ∧ isLow u = true)) :
    joinUnits (p :: us) = hold p ++ joinUnits us := by
  cases us with
  | nil => simp [joinUnits, hold_of_lt h]
  | cons u us =>
      have hu := hus u (by simp)
      rw [joinUnits, if_neg, hold_of_lt h]
      simp only [isHigh, isLow, Bool.and_eq_true, decide_eq_true_eq] at hu ⊢
      omega

/-- The first unit of joined code points is low only if the first of them is. -/
theorem isLow_of_head?_flatMap {ps : List Nat} {u : Nat} (h : Joined ps)
    (hu : u ∈ (ps.flatMap unitsOf).head?) (hlow : isLow u = true) :
    ∃ q rest, ps = q :: rest ∧ isLow q = true := by
  cases ps with
  | nil => simp at hu
  | cons q rest =>
      refine ⟨q, rest, rfl, ?_⟩
      rw [List.flatMap_cons, unitsOf] at hu
      by_cases hq : q < 0x10000
      · simp only [if_pos hq, List.cons_append, List.head?_cons, Option.mem_def,
          Option.some.injEq] at hu
        exact hu ▸ hlow
      · simp only [if_neg hq, List.cons_append, List.head?_cons, Option.mem_def,
          Option.some.injEq] at hu
        simp only [isLow, Bool.and_eq_true, decide_eq_true_eq] at hlow
        have hlt := h.head_lt
        omega

/-- Joining the units of code points gives the code points back. -/
theorem joinUnits_flatMap_unitsOf {ps : List Nat} (h : Joined ps) :
    joinUnits (ps.flatMap unitsOf) = ps.flatMap hold := by
  induction ps with
  | nil => rfl
  | cons p ps ih =>
      rw [List.flatMap_cons, List.flatMap_cons, ← ih h.tail]
      by_cases hp : p < 0x10000
      · rw [unitsOf, if_pos hp]
        refine joinUnits_single hp _ ?_
        rintro u hu ⟨hhigh, hlow⟩
        obtain ⟨q, rest, rfl, hq⟩ := isLow_of_head?_flatMap h.tail hu hlow
        exact h.2.1 ⟨hhigh, hq⟩
      · exact joinUnits_pair (by omega) h.head_lt _

end Persona.Text
