import Mathlib.Data.List.TakeWhile
import Persona.Text.Blank
import Persona.Text.Search

/-!
# Searching and trimming

A pattern is found in a text exactly if the text holds it. Trimming takes characters off both ends
and leaves a text that has none of them there.

Main statements: `contains_iff`, `trimChars_append`, `trimChars_of_ends`.
-/

namespace Persona.Text

/-! ## Searching -/

theorem cut?_isSome_of_append (pattern a b : List Char) :
    (cut? pattern (a ++ (pattern ++ b))).isSome = true := by
  induction a with
  | nil =>
      rw [List.nil_append]
      have hdrop : dropPattern? pattern (pattern ++ b) = some b := dropPattern?_eq_some.mpr rfl
      cases hcs : pattern ++ b with
      | nil =>
          rw [cut?, (List.append_eq_nil_iff.mp hcs).1]
          rfl
      | cons c cs =>
          rw [hcs] at hdrop
          rw [cut?, hdrop]
          rfl
  | cons c a ih =>
      rw [List.cons_append, cut?]
      split
      · rfl
      · rw [Option.isSome_map, ih]

theorem cut?_eq_none_iff {pattern cs : List Char} : cut? pattern cs = none ↔ ¬pattern <:+: cs := by
  constructor
  · rintro hcut ⟨a, b, rfl⟩
    have hsome := cut?_isSome_of_append pattern a b
    rw [← List.append_assoc, hcut] at hsome
    cases hsome
  · intro h
    cases hcut : cut? pattern cs with
    | none => rfl
    | some ab => exact absurd ⟨ab.1, ab.2, (eq_append_of_cut? hcut).symm⟩ h

/-- A pattern is not found where its first character does not stand. -/
theorem cut?_append_of_not_mem {c : Char} {a : List Char} (h : c ∉ a) (pattern b : List Char) :
    cut? (c :: pattern) (a ++ b) = (cut? (c :: pattern) b).map fun p => (a ++ p.1, p.2) := by
  induction a with
  | nil => simp
  | cons d a ih =>
      rw [List.mem_cons, not_or] at h
      have hdrop : dropPattern? (c :: pattern) (d :: (a ++ b)) = none := if_neg h.1
      rw [List.cons_append, cut?, hdrop, ih h.2, Option.map_map]
      rfl

theorem cut?_append (c : Char) (pattern b : List Char) :
    cut? (c :: pattern) (c :: pattern ++ b) = some ([], b) := by
  have hdrop : dropPattern? (c :: pattern) (c :: pattern ++ b) = some b :=
    dropPattern?_eq_some.mpr rfl
  rw [List.cons_append] at hdrop ⊢
  rw [cut?, hdrop]

theorem contains_iff {s pattern : String} :
    contains s pattern = true ↔ pattern.toList <:+: s.toList := by
  rw [contains, Option.isSome_iff_ne_none, Ne, cut?_eq_none_iff, Decidable.not_not]

/-! ## Trimming -/

/-- Trimming leaves away characters at either end. -/
theorem exists_append_trimChars (p : Char → Bool) (cs : List Char) :
    ∃ before after, cs = before ++ (trimChars p cs ++ after) ∧ ∀ c ∈ before, p c = true := by
  refine ⟨cs.takeWhile p, ((cs.dropWhile p).reverse.takeWhile p).reverse, ?_,
    fun c hc => List.mem_takeWhile_imp hc⟩
  rw [trimChars, ← List.reverse_append, List.takeWhile_append_dropWhile, List.reverse_reverse,
    List.takeWhile_append_dropWhile]

theorem trimChars_append {p : Char → Bool} {before after cs : List Char} {c d : Char}
    (hbefore : ∀ c ∈ before, p c = true) (hafter : ∀ c ∈ after, p c = true)
    (hc : p c = false) (hd : p d = false) :
    trimChars p (before ++ (c :: (cs ++ [d]) ++ after)) = c :: (cs ++ [d]) := by
  have hafter' : ∀ e ∈ after.reverse, p e = true := fun e he => hafter e (List.mem_reverse.mp he)
  rw [trimChars, List.dropWhile_append_of_pos hbefore, List.cons_append,
    List.dropWhile_cons_of_neg (by simp [hc]), ← List.cons_append, List.reverse_append,
    List.dropWhile_append_of_pos hafter', ← List.cons_append, List.reverse_append,
    List.reverse_singleton, List.singleton_append, List.dropWhile_cons_of_neg (by simp [hd]),
    List.reverse_cons, List.reverse_reverse]

theorem trim_cons_of_isBlank {c : Char} (hc : isBlank c = true) (cs : List Char) :
    trim (String.ofList (c :: cs)) = trim (String.ofList cs) := by
  rw [trim, trimWhere, trim, trimWhere, String.toList_ofList, String.toList_ofList, trimChars,
    List.dropWhile_cons_of_pos hc, trimChars]

theorem getLast?_trimChars {p : Char → Bool} {cs : List Char} {c : Char}
    (h : (trimChars p cs).getLast? = some c) : p c = false := by
  rw [trimChars, List.getLast?_reverse] at h
  have hnot := List.head?_dropWhile_not p (cs.dropWhile p).reverse
  rw [h] at hnot
  exact hnot

/-- Nothing is taken off a text that has no such characters at its ends. -/
theorem trimChars_of_ends {p : Char → Bool} {cs : List Char}
    (hhead : ∀ c ∈ cs.head?, p c = false) (hlast : ∀ c ∈ cs.getLast?, p c = false) :
    trimChars p cs = cs := by
  have hkeep : ∀ ds : List Char, (∀ c ∈ ds.head?, p c = false) → ds.dropWhile p = ds := by
    intro ds hds
    cases ds with
    | nil => rfl
    | cons d ds => exact List.dropWhile_cons_of_neg (by simp [hds d rfl])
  rw [trimChars, hkeep cs hhead, hkeep, List.reverse_reverse]
  rwa [List.head?_reverse]

theorem length_trimChars_le (p : Char → Bool) (cs : List Char) :
    (trimChars p cs).length ≤ cs.length := by
  calc (trimChars p cs).length
    _ = ((cs.dropWhile p).reverse.dropWhile p).length := List.length_reverse
    _ ≤ (cs.dropWhile p).reverse.length := (List.dropWhile_suffix p).length_le
    _ = (cs.dropWhile p).length := List.length_reverse
    _ ≤ cs.length := (List.dropWhile_suffix p).length_le

end Persona.Text
