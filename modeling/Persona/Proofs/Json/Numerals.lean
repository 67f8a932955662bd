import Persona.Json.Reader
import Persona.Proofs.Number.Digits

/-!
# Whole numbers in JSON

A whole number is written with a sign and its decimal digits, and read back as the same number
unless it has too many digits or is followed by something that would go on with it.

Main statement: `readNumber_intText`.
-/

namespace Persona.Json

open Number (digitChar digitsOf intText natText)
open Text (digitsValue digitLimit)

/-- What follows a number does not go on with it. -/
def EndsNumber (rest : List Char) : Prop :=
  ∀ c ∈ rest.head?, isAsciiDigit c = false ∧ c ≠ '.' ∧ c ≠ 'e' ∧ c ≠ 'E'

theorem endsNumber_nil : EndsNumber [] := by
  intro c hc
  cases hc

theorem endsNumber_cons {c : Char} (hd : isAsciiDigit c = false) (hp : c ≠ '.') (he : c ≠ 'e')
    (hE : c ≠ 'E') (rest : List Char) : EndsNumber (c :: rest) := by
  intro d hd'
  cases hd'
  exact ⟨hd, hp, he, hE⟩

theorem isAsciiDigit_digitChar : ∀ d, d < 10 → isAsciiDigit (digitChar d) = true := by decide

theorem asciiDigit_digitChar : ∀ d, d < 10 → asciiDigit (digitChar d) = d := by decide

theorem digitChar_eq_zero : ∀ d, d < 10 → digitChar d = '0' → d = 0 := by decide

/-! ## The parts of a number -/

theorem isAsciiDigit_of_mem_map {ds : List Nat} (hds : ∀ d ∈ ds, d < 10) :
    ∀ c ∈ ds.map digitChar, isAsciiDigit c = true := by
  intro c hc
  obtain ⟨d, hd, rfl⟩ := List.mem_map.mp hc
  exact isAsciiDigit_digitChar d (hds d hd)

theorem takeWhile_isAsciiDigit {ds : List Nat} (hds : ∀ d ∈ ds, d < 10) {rest : List Char}
    (hrest : EndsNumber rest) :
    (ds.map digitChar ++ rest).takeWhile isAsciiDigit = ds.map digitChar := by
  rw [List.takeWhile_append_of_pos (isAsciiDigit_of_mem_map hds)]
  cases rest with
  | nil => simp
  | cons c rest => rw [List.takeWhile_cons_of_neg (by simp [(hrest c rfl).1]), List.append_nil]

theorem dropWhile_isAsciiDigit {ds : List Nat} (hds : ∀ d ∈ ds, d < 10) {rest : List Char}
    (hrest : EndsNumber rest) : (ds.map digitChar ++ rest).dropWhile isAsciiDigit = rest := by
  rw [List.dropWhile_append_of_pos (isAsciiDigit_of_mem_map hds)]
  cases rest with
  | nil => rfl
  | cons c rest => rw [List.dropWhile_cons_of_neg (by simp [(hrest c rfl).1])]

theorem natText_of_pos {n : Nat} (h : 0 < n) :
    (natText n).toList = (digitsOf n).map digitChar := by
  rw [natText, if_neg (by omega), String.toList_ofList]

theorem isAsciiDigit_of_mem_natText (n : Nat) :
    ∀ c ∈ (natText n).toList, isAsciiDigit c = true := by
  rcases Nat.eq_zero_or_pos n with rfl | hn
  · exact List.all_eq_true.mp (by decide)
  · rw [natText_of_pos hn]
    exact isAsciiDigit_of_mem_map Number.lt_ten_of_mem_digitsOf

/-- The digits of a number are its whole part. -/
theorem wholeDigits?_natText (n : Nat) {rest : List Char} (hrest : EndsNumber rest) :
    wholeDigits? ((natText n).toList ++ rest) = some ((natText n).toList, rest) := by
  rcases Nat.eq_zero_or_pos n with rfl | hn
  · rfl
  · obtain ⟨d, ds, hds, hd⟩ := Number.exists_cons_digitsOf hn
    have hlt : ∀ e ∈ d :: ds, e < 10 := hds ▸ Number.lt_ten_of_mem_digitsOf
    have hdlt : d < 10 := hlt d (by simp)
    have hdslt : ∀ e ∈ ds, e < 10 := fun e he => hlt e (List.mem_cons_of_mem d he)
    rw [natText_of_pos hn, hds, List.map_cons, List.cons_append]
    rw [wholeDigits?, if_pos (isAsciiDigit_digitChar d hdlt), takeWhile_isAsciiDigit hdslt hrest,
      dropWhile_isAsciiDigit hdslt hrest]
    intro hzero
    exact hd (digitChar_eq_zero d hdlt hzero)

/-- The characters of a number stand for it. -/
theorem digitsValue_natText (n : Nat) :
    digitsValue ((natText n).toList.map asciiDigit) = n := by
  rcases Nat.eq_zero_or_pos n with rfl | hn
  · rfl
  · have hmap : ((digitsOf n).map digitChar).map asciiDigit = digitsOf n := by
      rw [List.map_map]
      refine (List.map_congr_left fun d hd => ?_).trans (List.map_id _)
      exact asciiDigit_digitChar d (Number.lt_ten_of_mem_digitsOf d hd)
    rw [natText_of_pos hn, hmap, Number.digitsValue_digitsOf]

theorem natText_injective : Function.Injective natText := fun m n h => by
  rw [← digitsValue_natText m, h, digitsValue_natText]

theorem length_natText_le {n : Nat} (h : n < Number.tenPow digitLimit) :
    (natText n).toList.length ≤ digitLimit := by
  rcases Nat.eq_zero_or_pos n with rfl | hn
  · decide
  · rw [natText_of_pos hn, List.length_map]
    exact Number.length_digitsOf_le_iff.mpr h

theorem fractionDigits_of_ends {rest : List Char} (hrest : EndsNumber rest) :
    fractionDigits rest = (none, rest) := by
  unfold fractionDigits
  split
  · exact absurd rfl (hrest _ rfl).2.1
  · rfl

theorem exponentPart_of_ends {rest : List Char} (hrest : EndsNumber rest) :
    exponentPart rest = (none, rest) := by
  cases rest with
  | nil => rfl
  | cons c rest =>
      obtain ⟨-, -, he, hE⟩ := hrest c rfl
      simp [exponentPart, he, hE]

/-! ## Whole numbers -/

/-- A number starts with a digit. -/
theorem exists_cons_natText (n : Nat) :
    ∃ c cs, (natText n).toList = c :: cs ∧ isAsciiDigit c = true := by
  rcases Nat.eq_zero_or_pos n with rfl | hn
  · exact ⟨'0', [], rfl, rfl⟩
  · obtain ⟨d, ds, hds, -⟩ := Number.exists_cons_digitsOf hn
    refine ⟨digitChar d, ds.map digitChar, by rw [natText_of_pos hn, hds, List.map_cons], ?_⟩
    exact isAsciiDigit_digitChar d (Number.lt_ten_of_mem_digitsOf d (by rw [hds]; simp))

/-- A whole number is read back, with its sign. -/
theorem readNumber_intText {n : Int} (hn : n.natAbs < Number.tenPow digitLimit)
    {rest : List Char} (hrest : EndsNumber rest) :
    readNumber ((intText n).toList ++ rest) = .ok (.int n, rest) := by
  have hlength := length_natText_le hn
  have hwhole := wholeDigits?_natText n.natAbs hrest
  unfold intText
  split
  · next hneg =>
      rw [String.toList_append]
      simp only [readNumber, String.reduceToList, List.cons_append, List.nil_append, hwhole,
        fractionDigits_of_ends hrest, exponentPart_of_ends hrest, digitsValue_natText, if_true]
      rw [if_neg (by omega)]
      congr 3
      omega
  · next hpos =>
      obtain ⟨c, cs, hcs, hc⟩ := exists_cons_natText n.natAbs
      have hminus : c ≠ '-' := by
        rintro rfl
        cases hc
      rw [readNumber, hwhole]
      · simp only [fractionDigits_of_ends hrest, exponentPart_of_ends hrest, digitsValue_natText]
        rw [if_neg (by omega)]
        congr 3
        simp only [Bool.false_eq_true, if_false]
        omega
      · intro tail htail
        rw [hcs, List.cons_append, List.cons.injEq] at htail
        exact hminus htail.1

end Persona.Json
