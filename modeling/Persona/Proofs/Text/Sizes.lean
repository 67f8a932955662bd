import Mathlib.Data.List.TakeWhile
import Persona.Json.Access
import Persona.Proofs.Text.Joining
import Persona.Text.Blank

/-!
# Sizes of texts

A text has as many code points as its parts together, as long as no mark at the end of one part
speaks for the first character of the next. What is cut has the size it is cut to, or less if there
is not so much.

Main statements: `Text.size_append_of_head`, `Text.size_take`, `Json.fits_of_clip`.
-/

namespace Persona

namespace Text

/-! ## Parts of a text -/

theorem pointsOf_append_of_not_mem {cs : List Char} (h : mark ∉ cs) (ds : List Char) :
    pointsOf (cs ++ ds) = pointsOf cs ++ pointsOf ds := by
  induction cs with
  | nil => rfl
  | cons c cs ih =>
      rw [List.mem_cons, not_or] at h
      have hc : c ≠ mark := Ne.symm h.1
      rw [List.cons_append, pointsOf_cons_of_ne hc, pointsOf_cons_of_ne hc, ih h.2,
        List.cons_append]

/-- A character that no mark speaks for starts anew, whatever stands before it. -/
theorem pointsOf_append_of_head {ds : List Char} (h : ∀ d ∈ ds.head?, held? d = none)
    (cs : List Char) : pointsOf (cs ++ ds) = pointsOf cs ++ pointsOf ds := by
  induction cs using pointsOf.induct with
  | case1 => rfl
  | case2 c =>
      cases ds with
      | nil => rfl
      | cons d ds =>
          have hd : held? d = none := h d rfl
          rw [List.singleton_append]
          by_cases hc : c = mark
          · rw [pointsOf, pointsOf, if_pos hc, hd]
            rfl
          · rw [pointsOf_cons_of_ne hc]
            rfl
  | case3 d rest point hpoint ih =>
      rw [List.cons_append, List.cons_append, pointsOf_mark_cons hpoint, pointsOf_mark_cons hpoint,
        ih, List.cons_append]
  | case4 d rest hpoint ih =>
      rw [List.cons_append] at ih ⊢
      rw [List.cons_append, pointsOf, pointsOf, if_pos rfl, hpoint, ih]
      rfl
  | case5 c d rest hc ih =>
      rw [List.cons_append, pointsOf_cons_of_ne hc, pointsOf_cons_of_ne hc, ih, List.cons_append]

/-- Without marks, each character is a code point of its own. -/
theorem pointsOf_of_not_mem {cs : List Char} (h : mark ∉ cs) : pointsOf cs = cs.map Char.toNat := by
  induction cs with
  | nil => rfl
  | cons c cs ih =>
      rw [List.mem_cons, not_or] at h
      rw [pointsOf_cons_of_ne (Ne.symm h.1), ih h.2, List.map_cons]

theorem size_of_not_mem {s : String} (h : mark ∉ s.toList) : size s = s.toList.length := by
  rw [size, points, pointsOf_of_not_mem h, List.length_map]

/-- Only marks tell halves of pairs. -/
theorem halves?_of_not_mem {s : String} (h : mark ∉ s.toList) : halves? s = none := by
  have hwhole : ∀ p ∈ points s, (!isHalf p || false) = true := by
    intro p hp
    rw [points, pointsOf_of_not_mem h] at hp
    obtain ⟨c, -, rfl⟩ := List.mem_map.mp hp
    rw [isHalf_toNat]
    rfl
  rw [halves?, firstHalves?, List.takeWhile_eq_self_iff.mpr hwhole, List.drop_length]
  rfl

theorem size_append_of_not_mem {s : String} (h : mark ∉ s.toList) (t : String) :
    size (s ++ t) = size s + size t := by
  rw [size, points, String.toList_append, pointsOf_append_of_not_mem h, List.length_append]
  rfl

theorem size_append_of_head {t : String} (h : ∀ d ∈ t.toList.head?, held? d = none) (s : String) :
    size (s ++ t) = size s + size t := by
  rw [size, points, String.toList_append, pointsOf_append_of_head h, List.length_append]
  rfl

/-- A text between two others. -/
theorem size_between {before after : String} (hbefore : mark ∉ before.toList)
    (hafter : ∀ d ∈ after.toList.head?, held? d = none) (s : String) :
    size (before ++ s ++ after) = size before + size s + size after := by
  rw [size_append_of_head hafter, size_append_of_not_mem hbefore]

/-- Lines are as long as they are together, with a line feed between each two of them. -/
theorem size_ofLines_cons (line next : String) (rest : List String) :
    size (ofLines (line :: next :: rest)) = size line + 1 + size (ofLines (next :: rest)) := by
  have hfeed : ∀ t, ∀ d ∈ ("\n" ++ t).toList.head?, held? d = none := by
    intro t d hd
    rw [String.toList_append] at hd
    obtain rfl : '\n' = d := Option.some.inj hd
    rfl
  have hlines : ofLines (line :: next :: rest) = line ++ ("\n" ++ ofLines (next :: rest)) := by
    rw [ofLines, String.intercalate_cons_cons, String.append_assoc]
    rfl
  have hone : size ("\n" ++ ofLines (next :: rest)) = 1 + size (ofLines (next :: rest)) :=
    size_append_of_not_mem (by decide) _
  rw [hlines, size_append_of_head (hfeed _), hone, Nat.add_assoc]

theorem size_ofLines_singleton (line : String) : size (ofLines [line]) = size line := by
  rw [ofLines, String.intercalate_singleton]

/-! ## Cutting -/

theorem lt_of_mem_pointsOf {cs : List Char} : ∀ p ∈ pointsOf cs, p < 0x110000 := by
  induction cs using pointsOf.induct with
  | case1 => exact fun p hp => absurd hp List.not_mem_nil
  | case2 c =>
      intro p hp
      rw [List.mem_singleton.mp hp]
      exact toNat_lt c
  | case3 d rest point hpoint ih =>
      intro p hp
      rw [pointsOf_mark_cons hpoint] at hp
      rcases List.mem_cons.mp hp with rfl | hp
      · have hd := toNat_lt d
        rw [held?] at hpoint
        split at hpoint
        · have hp := Option.some.inj hpoint
          omega
        · split at hpoint
          · have hp := Option.some.inj hpoint
            omega
          · cases hpoint
      · exact ih p hp
  | case4 d rest hpoint ih =>
      intro p hp
      rw [pointsOf, if_pos rfl, hpoint] at hp
      rcases List.mem_cons.mp hp with rfl | hp
      · exact toNat_lt mark
      · exact ih p hp
  | case5 c d rest hc ih =>
      intro p hp
      rw [pointsOf_cons_of_ne hc] at hp
      rcases List.mem_cons.mp hp with rfl | hp
      · exact toNat_lt c
      · exact ih p hp

/-- Code points that are held are read back, whatever text follows them. -/
theorem points_ofPoints_append {ps : List Nat} (h : ∀ p ∈ ps, p < 0x110000) (t : String) :
    points (ofPoints ps ++ t) = ps ++ points t := by
  rw [points, ofPoints, String.toList_append, String.toList_ofList]
  induction ps with
  | nil => rfl
  | cons p ps ih =>
      rw [List.flatMap_cons, List.append_assoc, pointsOf_hold_append (h p List.mem_cons_self),
        ih fun q hq => h q (List.mem_cons_of_mem p hq), List.cons_append]

theorem lt_of_mem_take {n p : Nat} {s : String} (h : p ∈ (points s).take n) : p < 0x110000 :=
  lt_of_mem_pointsOf p (List.mem_of_mem_take h)

theorem size_take (n : Nat) (s : String) : size (take n s) = min n (size s) := by
  rw [take, size, points_ofPoints fun _ => lt_of_mem_take, List.length_take, size]

theorem size_take_append (n : Nat) (s t : String) :
    size (take n s ++ t) = min n (size s) + size t := by
  rw [take, size, points_ofPoints_append fun _ => lt_of_mem_take, List.length_append,
    List.length_take, size, size]

theorem size_take_between {before : String} (h : mark ∉ before.toList) (n : Nat)
    (s after : String) :
    size (before ++ take n s ++ after) = size before + min n (size s) + size after := by
  rw [String.append_assoc, size_append_of_not_mem h, size_take_append, Nat.add_assoc]

end Text

/-! ## Values that are not too long -/

namespace Json

/-- A value that has a size, which is not above a limit. -/
def Fits (limit : Nat) (v : Json) : Prop := ∃ n, v.size = .ok n ∧ n ≤ limit

theorem fits_str_iff {limit : Nat} {text : String} :
    (str text).Fits limit ↔ Text.size text ≤ limit :=
  ⟨fun ⟨_, hsize, hle⟩ => Except.ok.inj hsize ▸ hle, fun hle => ⟨_, rfl, hle⟩⟩

/-- What is cut to a limit has it as its size at most. -/
theorem fits_of_clip {limit : Nat} {v clipped : Json} (h : v.clip limit = .ok clipped) :
    clipped.Fits limit := by
  cases v with
  | str text =>
      obtain rfl := Except.ok.inj h
      rw [fits_str_iff, Text.size_take]
      exact Nat.min_le_left _ _
  | arr xs =>
      obtain rfl := Except.ok.inj h
      exact ⟨_, rfl, List.length_take_le _ _⟩
  | _ => cases h

end Json

end Persona
