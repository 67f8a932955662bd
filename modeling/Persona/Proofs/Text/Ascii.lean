import Mathlib.Data.List.TakeWhile
import Persona.Files.Tree
import Persona.Text.Blank

/-!
# ASCII texts

The characters of an ASCII text are its code points, each of one byte. None of them is half of a
pair, so the text can be written into a file and can name one.

Main statements: `Text.firstHalves?_of_ascii`, `Files.byteSize_of_ascii`.
-/

namespace Persona

namespace Text

theorem pointsOf_of_ascii {cs : List Char} (h : ∀ c ∈ cs, c.toNat < 128) :
    pointsOf cs = cs.map Char.toNat := by
  induction cs with
  | nil => rfl
  | cons c cs ih =>
      have hc := h c List.mem_cons_self
      rw [pointsOf_cons_of_ne (ne_mark_of_toNat (by omega)),
        ih fun d hd => h d (List.mem_cons_of_mem c hd), List.map_cons]

theorem firstHalves?_of_ascii (isAllowed : Nat → Bool) {s : String}
    (h : ∀ c ∈ s.toList, c.toNat < 128) : firstHalves? isAllowed s = none := by
  have hhalf : ∀ p ∈ points s, (!isHalf p || isAllowed p) = true := by
    intro p hp
    rw [points, pointsOf_of_ascii h] at hp
    obtain ⟨c, hc, rfl⟩ := List.mem_map.mp hp
    have hlt := h c hc
    have hnot : isHalf c.toNat = false := by
      simp only [isHalf, Bool.and_eq_false_iff, decide_eq_false_iff_not]
      omega
    rw [hnot]
    rfl
  rw [firstHalves?, List.takeWhile_eq_self_iff.mpr hhalf, List.drop_length]
  rfl

/-- Without a carriage return there is no line end to unify. -/
theorem unifyLineEnds_of_not_mem {cs : List Char} (h : '\r' ∉ cs) : unifyLineEnds cs = cs := by
  induction cs with
  | nil => rfl
  | cons c cs ih =>
      rw [List.mem_cons, not_or] at h
      rw [unifyLineEnds, ih h.2]
      · simp [Ne.symm h.1]
      · rintro rest rfl
        exact absurd rfl h.1

end Text

namespace Files

/-- An ASCII name has as many bytes as characters. -/
theorem byteSize_of_ascii {s : String} (h : ∀ c ∈ s.toList, c.toNat < 128) :
    byteSize s = s.toList.length := by
  have hstep : ∀ (cs : List Char) (n : Nat), (∀ c ∈ cs, c.toNat < 128) →
      (cs.map Char.toNat).foldl (fun n p => n + if Text.isByteHalf p then 1
        else (Char.ofNat p).utf8Size) n = n + cs.length := by
    intro cs
    induction cs with
    | nil => exact fun n _ => rfl
    | cons c cs ih =>
        intro n hcs
        have hc := hcs c List.mem_cons_self
        have hhalf : Text.isByteHalf c.toNat = false := by
          simp only [Text.isByteHalf, Bool.and_eq_false_iff, decide_eq_false_iff_not]
          omega
        have hsize : (Char.ofNat c.toNat).utf8Size = 1 := by
          rw [Char.ofNat_toNat, Char.utf8Size, if_pos]
          exact UInt32.le_iff_toNat_le.mpr (Nat.le_of_lt_succ hc)
        rw [List.map_cons, List.foldl_cons, hhalf, if_neg Bool.false_ne_true, hsize,
          ih _ fun d hd => hcs d (List.mem_cons_of_mem c hd), List.length_cons]
        omega
  rw [byteSize, Text.points, Text.pointsOf_of_ascii h, hstep _ 0 h, Nat.zero_add]

end Files

end Persona
