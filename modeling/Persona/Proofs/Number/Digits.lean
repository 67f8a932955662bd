import Mathlib.Data.List.Induction
import Persona.Number.Numeral
import Persona.Text.Digit

/-!
# Decimal digits

The digits of a whole number stand for it again, start with no zero, and are as many as the powers
of ten below it say.

Main statements:

* `digitsValue_digitsOf`: the value of a number's digits is the number;
* `length_digitsOf_le_iff`: a number has at most `k` digits just when it lies below `10 ^ k`.
-/

namespace Persona.Number

open Text (digitsValue)

theorem digitsOf_zero : digitsOf 0 = [] := by
  rw [digitsOf, if_pos rfl]

theorem digitsOf_of_pos {n : Nat} (h : 0 < n) : digitsOf n = digitsOf (n / 10) ++ [n % 10] := by
  rw [digitsOf, if_neg (by omega)]

theorem digitsValue_concat (ds : List Nat) (d : Nat) :
    digitsValue (ds ++ [d]) = 10 * digitsValue ds + d := by
  simp [digitsValue, List.foldl_append]

/-- The digits of a number stand for it. -/
theorem digitsValue_digitsOf (n : Nat) : digitsValue (digitsOf n) = n := by
  induction n using digitsOf.induct with
  | case1 => rw [digitsOf_zero]; rfl
  | case2 n hn ih =>
      rw [digitsOf_of_pos (by omega), digitsValue_concat, ih]
      omega

/-- Every digit is below ten. -/
theorem lt_ten_of_mem_digitsOf {n : Nat} : ∀ d ∈ digitsOf n, d < 10 := by
  induction n using digitsOf.induct with
  | case1 => rw [digitsOf_zero]; simp
  | case2 n hn ih =>
      intro d hd
      rw [digitsOf_of_pos (by omega), List.mem_append, List.mem_singleton] at hd
      rcases hd with hd | rfl
      · exact ih d hd
      · omega

/-- A number above zero has a first digit, which is not zero. -/
theorem exists_cons_digitsOf {n : Nat} (h : 0 < n) :
    ∃ d ds, digitsOf n = d :: ds ∧ d ≠ 0 := by
  induction n using digitsOf.induct with
  | case1 => omega
  | case2 n hn ih =>
      rw [digitsOf_of_pos h]
      by_cases hs : n / 10 = 0
      · refine ⟨n % 10, [], ?_, by omega⟩
        rw [hs, digitsOf_zero, List.nil_append]
      · obtain ⟨d, ds, hds, hd⟩ := ih (by omega)
        exact ⟨d, ds ++ [n % 10], by rw [hds, List.cons_append], hd⟩

theorem tenPow_succ (k : Nat) : tenPow (k + 1) = 10 * tenPow k := by
  simp [tenPow, Nat.pow_succ, Nat.mul_comm]

theorem tenPow_le_tenPow {k l : Nat} (h : k ≤ l) : tenPow k ≤ tenPow l :=
  Nat.pow_le_pow_right (by decide) h

theorem lt_tenPow_of_le {n k l : Nat} (h : n < tenPow k) (hle : k ≤ l) : n < tenPow l :=
  Nat.lt_of_lt_of_le h (tenPow_le_tenPow hle)

/-- So many digits reach up to the next power of ten. -/
theorem length_digitsOf_le_iff {n k : Nat} : (digitsOf n).length ≤ k ↔ n < tenPow k := by
  induction n using digitsOf.induct generalizing k with
  | case1 =>
      rw [digitsOf_zero]
      exact iff_of_true (Nat.zero_le k) (Nat.pow_pos (by decide))
  | case2 n hn ih =>
      rw [digitsOf_of_pos (by omega), List.length_append, List.length_singleton]
      cases k with
      | zero => simp [tenPow]; omega
      | succ k =>
          rw [Nat.add_le_add_iff_right, ih, tenPow_succ]
          omega

/-- Digits stand for less than the power of ten that they reach up to. -/
theorem digitsValue_lt {ds : List Nat} (h : ∀ d ∈ ds, d < 10) :
    digitsValue ds < tenPow ds.length := by
  induction ds using List.reverseRecOn with
  | nil => decide
  | append_singleton ds d ih =>
      have hd : d < 10 := h d (by simp)
      have hds := ih fun e he => h e (by simp [he])
      rw [digitsValue_concat, List.length_append, List.length_singleton, tenPow_succ]
      omega

end Persona.Number
