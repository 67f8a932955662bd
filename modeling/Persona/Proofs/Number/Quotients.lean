import Mathlib
import Persona.Number.Binary

/-!
# Whole parts of quotients

The quotient of two whole numbers is rounded to a double before its whole part is taken. Up to
`2 ^ 53` the rounding never carries it over a whole number: to be rounded up to one, the quotient
would have to miss it by less than the last place of its mantissa, and the divisor is too small for
that. So the whole part is that of the exact quotient.

Main statement: `cut_ofRatio`.
-/

namespace Persona.Number

open Float.Model Float.Model.UnpackedFloat

theorem twoPow_eq (n : Nat) : twoPow n = 2 ^ n := rfl

/-! ## Doubles by their bits -/

theorem toBits_ofBits {u : UInt64} (h : u.toNat / 2 ^ 52 % 2048 ≠ 2047) :
    (Float.ofBits u).toBits = u := by
  have hnan : @isNaNBits Format.binary64 u.toBitVec = false := by
    refine decide_eq_false fun hnan => h ?_
    have hexponent := congrArg BitVec.toNat hnan.1
    rw [unpackExponent, BitVec.toNat_cast, BitVec.extractLsb_toNat,
      Nat.shiftRight_eq_div_pow] at hexponent
    exact hexponent
  apply UInt64.toBitVec_inj.mp
  refine (@pack_unpack Format.binary64 u.toBitVec (by decide)).trans ?_
  rw [hnan]
  rfl

/-- The parts of a finite double, by its sign and the other bits. -/
theorem parts_ofBits {bits : Nat} (h : bits < 2047 * 2 ^ 52) (negative : Bool) :
    parts (Float.ofBits (UInt64.ofNat (negative.toNat * 2 ^ 63 + bits))) =
      if bits / 2 ^ 52 = 0 then .finite negative bits (-1074)
      else .finite negative (bits % 2 ^ 52 + 2 ^ 52) ((bits / 2 ^ 52 : Nat) - 1075) := by
  have hsign := Bool.toNat_le negative
  have hbits : (UInt64.ofNat (negative.toNat * 2 ^ 63 + bits)).toNat =
      negative.toNat * 2 ^ 63 + bits :=
    UInt64.toNat_ofNat_of_lt' (by rw [UInt64.size]; omega)
  have hread : (Float.ofBits (UInt64.ofNat (negative.toNat * 2 ^ 63 + bits))).toBits.toNat =
      negative.toNat * 2 ^ 63 + bits := by
    rw [toBits_ofBits (by rw [hbits]; omega), hbits]
  have hfirst : ((negative.toNat * 2 ^ 63 + bits) / 2 ^ 63 == 1) = negative := by
    rw [show (negative.toNat * 2 ^ 63 + bits) / 2 ^ 63 = negative.toNat by omega]
    cases negative <;> rfl
  have hexponent : (negative.toNat * 2 ^ 63 + bits) / 2 ^ 52 % 2048 = bits / 2 ^ 52 := by omega
  have hfraction : (negative.toNat * 2 ^ 63 + bits) % 2 ^ 52 = bits % 2 ^ 52 := by omega
  unfold parts
  simp only [hread, twoPow_eq, hfirst, hexponent, hfraction]
  rw [if_neg (by rw [beq_iff_eq]; omega)]
  by_cases hzero : bits / 2 ^ 52 = 0
  · rw [if_pos hzero, if_pos (beq_iff_eq.mpr hzero), Nat.mod_eq_of_lt (by omega)]
  · rw [if_neg hzero, if_neg (mt beq_iff_eq.mp hzero)]

/-! ## The exponent of a quotient -/

/-- Scaling both sides by the powers that make an exponent whole. -/
theorem scaled_lt_iff {num den : Nat} (e : Int) (k : Nat) :
    num * twoPow (-e).toNat < den * twoPow e.toNat * 2 ^ k ↔
      (num : ℚ) < den * 2 ^ (e + k) := by
  have hpos : (0 : ℚ) < 2 ^ (-e).toNat := by positivity
  have hsplit : (2 : ℚ) ^ e.toNat = 2 ^ e * 2 ^ (-e).toNat := by
    rw [← zpow_natCast, ← zpow_natCast, ← zpow_add₀ two_ne_zero]
    congr 1
    omega
  have hright : ((den * twoPow e.toNat * 2 ^ k : Nat) : ℚ) =
      den * 2 ^ (e + k) * 2 ^ (-e).toNat := by
    rw [twoPow_eq, zpow_add₀ two_ne_zero, zpow_natCast]
    push_cast
    rw [hsplit]
    ring
  rw [← @Nat.cast_lt ℚ, hright, twoPow_eq, Nat.cast_mul, Nat.cast_pow, Nat.cast_ofNat]
  exact mul_lt_mul_iff_left₀ hpos

/-- A quotient is within a factor of two of the powers its ends' lengths tell. -/
theorem ratio_bounds {num den : Nat} (hnum : num ≠ 0) (hden : den ≠ 0) :
    (num : ℚ) < den * 2 ^ ((num.log2 : Int) - den.log2 + 1) ∧
      (den : ℚ) * 2 ^ ((num.log2 : Int) - den.log2 - 1) ≤ num := by
  have hnumLow : (2 : ℚ) ^ (num.log2 : Int) ≤ num := mod_cast Nat.log2_self_le hnum
  have hnumHigh : (num : ℚ) < 2 ^ ((num.log2 : Int) + 1) := mod_cast Nat.lt_log2_self
  have hdenLow : (2 : ℚ) ^ (den.log2 : Int) ≤ den := mod_cast Nat.log2_self_le hden
  have hdenHigh : (den : ℚ) < 2 ^ ((den.log2 : Int) + 1) := mod_cast Nat.lt_log2_self
  constructor
  · calc (num : ℚ) < 2 ^ ((num.log2 : Int) + 1) := hnumHigh
      _ = 2 ^ (den.log2 : Int) * 2 ^ ((num.log2 : Int) - den.log2 + 1) := by
        rw [← zpow_add₀ two_ne_zero]; congr 1; omega
      _ ≤ den * 2 ^ ((num.log2 : Int) - den.log2 + 1) := by gcongr
  · calc (den : ℚ) * 2 ^ ((num.log2 : Int) - den.log2 - 1)
        ≤ 2 ^ ((den.log2 : Int) + 1) * 2 ^ ((num.log2 : Int) - den.log2 - 1) := by gcongr
      _ = 2 ^ (num.log2 : Int) := by
        rw [← zpow_add₀ two_ne_zero]; congr 1; omega
      _ ≤ num := hnumLow

/-- At its exponent a quotient has at most 53 bits, and exactly 53 unless the exponent is the
least one. -/
theorem ratioExponent_bounds {num den : Nat} (hnum : num ≠ 0) (hden : den ≠ 0) :
    (num : ℚ) < den * 2 ^ (ratioExponent num den + 53) ∧
      (ratioExponent num den = -1074 ∨
        (den : ℚ) * 2 ^ (ratioExponent num den + 52) ≤ num) := by
  obtain ⟨hhigh, hlow⟩ := ratio_bounds hnum hden
  -- the exponent before it is held up to the least one has both bounds
  obtain ⟨e, he, heHigh, heLow⟩ : ∃ e : Int, ratioExponent num den = max e (-1074) ∧
      (num : ℚ) < den * 2 ^ (e + 53) ∧ (den : ℚ) * 2 ^ (e + 52) ≤ num := by
    by_cases hsmall : num * twoPow (-((num.log2 : Int) - den.log2 - 52)).toNat <
        den * twoPow ((num.log2 : Int) - den.log2 - 52).toNat * twoPow 52
    · refine ⟨(num.log2 : Int) - den.log2 - 52 - 1, by simp only [ratioExponent, if_pos hsmall],
        ?_, ?_⟩
      · have hless := (scaled_lt_iff _ 52).mp hsmall
        convert hless using 3
        push_cast
        ring
      · convert hlow using 3
        ring
    · refine ⟨(num.log2 : Int) - den.log2 - 52, by simp only [ratioExponent, if_neg hsmall],
        ?_, ?_⟩
      · convert hhigh using 3
        ring
      · exact not_lt.mp fun hless => hsmall ((scaled_lt_iff _ 52).mpr hless)
  rw [he]
  constructor
  · calc (num : ℚ) < den * 2 ^ (e + 53) := heHigh
      _ ≤ den * 2 ^ (max e (-1074) + 53) := by
        gcongr
        · exact one_le_two
        · exact le_max_left _ _
  · rcases le_total e (-1074) with hle | hle
    · exact .inl (max_eq_right hle)
    · exact .inr (by rw [max_eq_left hle]; exact heLow)

theorem ratioExponent_le {num den : Nat} (h : num ≤ 2 ^ 53) : ratioExponent num den ≤ 1 := by
  have hlog : num.log2 ≤ 53 := by
    rcases Nat.eq_zero_or_pos num with rfl | hpos
    · decide
    · have := (Nat.log2_lt (Nat.pos_iff_ne_zero.mp hpos)).mpr (by omega : num < 2 ^ 54)
      omega
  unfold ratioExponent
  dsimp only
  split <;> omega

/-! ## The whole part of a quotient -/

theorem roundedUnits_cases (num den : Nat) (e : Int) :
    let n := num * twoPow (-e).toNat
    let d := den * twoPow e.toNat
    roundedUnits num den e = n / d ∨
      roundedUnits num den e = n / d + 1 ∧ d ≤ 2 * (n % d) := by
  unfold roundedUnits
  dsimp only
  split
  case isTrue h =>
    simp only [Bool.or_eq_true, Bool.and_eq_true, decide_eq_true_eq, beq_iff_eq] at h
    exact .inr ⟨rfl, by omega⟩
  case isFalse => exact .inl rfl

/-- Doubling a mantissa is raising its exponent. -/
theorem wholePart_double (m : Nat) (e : Int) : wholePart (2 * m) e = wholePart m (e + 1) := by
  unfold wholePart
  simp only [twoPow_eq]
  by_cases he : 0 ≤ e
  · rw [if_pos he, if_pos (by omega), show (e + 1).toNat = e.toNat + 1 by omega]
    ring
  · obtain ⟨k, hk⟩ : ∃ k, (-e).toNat = k + 1 := ⟨(-e).toNat - 1, by omega⟩
    rw [if_neg he, hk, pow_succ', Nat.mul_div_mul_left _ _ two_pos]
    by_cases hone : 0 ≤ e + 1
    · rw [if_pos hone, show k = 0 by omega, show (e + 1).toNat = 0 by omega]
      simp
    · rw [if_neg hone, show (-(e + 1)).toNat = k by omega]

theorem wholePart_of_nonpos {e : Int} (he : e ≤ 0) (m : Nat) :
    wholePart m e = m / 2 ^ (-e).toNat := by
  unfold wholePart
  by_cases hzero : 0 ≤ e
  · rw [if_pos hzero, show e = 0 by omega]
    simp [twoPow_eq]
  · rw [if_neg hzero, twoPow_eq]

/-- The units of a quotient fit a mantissa, and fill it unless the exponent is the least one. -/
theorem units_bounds {num den : Nat} (hnum : num ≠ 0) (hden : den ≠ 0) :
    let e := ratioExponent num den
    let n := num * twoPow (-e).toNat
    let d := den * twoPow e.toNat
    n < 2 ^ 53 * d ∧ (e = -1074 ∨ 2 ^ 52 * d ≤ n) := by
  obtain ⟨hhigh, hlow⟩ := ratioExponent_bounds hnum hden
  dsimp only
  rw [Nat.mul_comm (2 ^ 53), Nat.mul_comm (2 ^ 52)]
  refine ⟨(scaled_lt_iff _ 53).mpr hhigh, hlow.imp id fun hlow => ?_⟩
  exact not_lt.mp fun hless => absurd ((scaled_lt_iff _ 52).mp hless) (not_lt.mpr hlow)

theorem roundedUnits_bounds {num den : Nat} (hnum : num ≠ 0) (hden : den ≠ 0) :
    roundedUnits num den (ratioExponent num den) ≤ 2 ^ 53 ∧
      (ratioExponent num den = -1074 ∨
        2 ^ 52 ≤ roundedUnits num den (ratioExponent num den)) := by
  obtain ⟨hhigh, hlow⟩ := units_bounds hnum hden
  have hrounded := roundedUnits_cases num den (ratioExponent num den)
  have hd : 0 < den * twoPow (ratioExponent num den).toNat :=
    Nat.mul_pos (Nat.pos_of_ne_zero hden) (Nat.two_pow_pos _)
  have hless := (Nat.div_lt_iff_lt_mul hd).mpr hhigh
  refine ⟨by omega, hlow.imp id fun hlow => ?_⟩
  have hreach := (Nat.le_div_iff_mul_le hd).mpr hlow
  omega

/-- Bits laid out for `q` units of `2 ^ e` are read back as such, also when `q` has been rounded up
to one bit more than a mantissa has. -/
theorem parts_units {e : Int} {q : Nat} (hleast : -1074 ≤ e) (hq : q ≤ 2 ^ 53)
    (hfull : e = -1074 ∨ 2 ^ 52 ≤ q) (hmost : e < 971 ∨ e = 971 ∧ q < 2 ^ 53) (negative : Bool) :
    ∃ m e', parts (Float.ofBits (UInt64.ofNat (negative.toNat * 2 ^ 63 +
        ((e + 1074).toNat * 2 ^ 52 + q)))) = .finite negative m e' ∧
      wholePart m e' = wholePart q e := by
  have hparts := @parts_ofBits ((e + 1074).toNat * 2 ^ 52 + q) (by omega) negative
  obtain hq | hq | rfl : q < 2 ^ 52 ∨ (2 ^ 52 ≤ q ∧ q < 2 ^ 53) ∨ q = 2 * 2 ^ 52 := by omega
  case inl =>
    obtain rfl : e = -1074 := hfull.resolve_right (by omega)
    rw [if_pos (by omega)] at hparts
    exact ⟨_, _, hparts, by rw [show (-1074 + 1074 : Int).toNat * 2 ^ 52 + q = q by omega]⟩
  case inr.inl =>
    rw [if_neg (by omega)] at hparts
    refine ⟨_, _, hparts, ?_⟩
    rw [show ((e + 1074).toNat * 2 ^ 52 + q) % 2 ^ 52 + 2 ^ 52 = q by omega,
      show ((((e + 1074).toNat * 2 ^ 52 + q) / 2 ^ 52 : Nat) : Int) - 1075 = e by omega]
  case inr.inr =>
    rw [if_neg (by omega)] at hparts
    refine ⟨_, _, hparts, ?_⟩
    rw [wholePart_double,
      show ((e + 1074).toNat * 2 ^ 52 + 2 * 2 ^ 52) % 2 ^ 52 + 2 ^ 52 = 2 ^ 52 by omega,
      show ((((e + 1074).toNat * 2 ^ 52 + 2 * 2 ^ 52) / 2 ^ 52 : Nat) : Int) - 1075 = e + 1 by
        omega]

theorem signBits_eq (negative : Bool) :
    (if negative then twoPow 63 else 0) = negative.toNat * 2 ^ 63 := by
  cases negative <;> rfl

/-- The double of a quotient stands for the rounded units at the quotient's exponent. -/
theorem parts_ofRatio {num den : Nat} (hnum : num ≠ 0) (hden : den ≠ 0)
    (hmost : ratioExponent num den < 971 ∨ ratioExponent num den = 971 ∧
      roundedUnits num den (ratioExponent num den) < 2 ^ 53) (negative : Bool) :
    ∃ m e, parts (ofRatio negative num den) = .finite negative m e ∧
      wholePart m e =
        wholePart (roundedUnits num den (ratioExponent num den)) (ratioExponent num den) := by
  obtain ⟨hq, hfull⟩ := roundedUnits_bounds hnum hden
  have hleast : -1074 ≤ ratioExponent num den := le_max_right _ _
  obtain ⟨m, e, hparts, hwhole⟩ := parts_units hleast hq hfull hmost negative
  refine ⟨m, e, ?_, hwhole⟩
  unfold ofRatio
  rw [if_neg (mt beq_iff_eq.mp hnum)]
  dsimp only
  rw [twoPow_eq 52, Nat.min_eq_left (by omega), signBits_eq, hparts]

theorem cut_of_parts {x : Float} {m : Nat} {e : Int} (h : parts x = .finite false m e) :
    cut x = .ok (wholePart m e) := by
  unfold cut
  rw [h]

/-- Rounding the units of a quotient up never reaches the next whole number. -/
theorem units_not_dvd {num den k : Nat} (hden : den ≠ 0) (hle : num ≤ 2 ^ 53)
    (hfull : 52 < k ∧ num * 2 ^ k < 2 ^ 52 * den ∨ 2 ^ 52 * den ≤ num * 2 ^ k)
    (hup : den ≤ 2 * (num * 2 ^ k % den)) : ¬2 ^ k ∣ num * 2 ^ k / den + 1 := by
  intro hdvd
  have hrest : num * 2 ^ k % den < den := Nat.mod_lt _ (Nat.pos_of_ne_zero hden)
  rcases hfull with ⟨hk, hsmall⟩ | hfull
  · -- below the least full mantissa there are fewer units than one whole number takes
    have hunits : num * 2 ^ k / den < 2 ^ 52 :=
      (Nat.div_lt_iff_lt_mul (Nat.pos_of_ne_zero hden)).mpr hsmall
    have hreach := Nat.le_of_dvd (Nat.succ_pos _) hdvd
    have hpow : 2 ^ 53 ≤ 2 ^ k := Nat.pow_le_pow_right two_pos hk
    omega
  · -- what is missing to the next whole number is a multiple of the units in one
    have hmissing : den * (num * 2 ^ k / den + 1) = num * 2 ^ k + (den - num * 2 ^ k % den) := by
      have := Nat.div_add_mod (num * 2 ^ k) den
      rw [Nat.mul_add, Nat.mul_one]
      omega
    have hmultiple : 2 ^ k ∣ den - num * 2 ^ k % den :=
      (Nat.dvd_add_right (Nat.dvd_mul_left _ _)).mp (hmissing ▸ hdvd.mul_left den)
    have hreach : 2 ^ k ≤ den - num * 2 ^ k % den := Nat.le_of_dvd (by omega) hmultiple
    have htop : num * 2 ^ k ≤ 2 ^ 53 * 2 ^ k := Nat.mul_le_mul_right _ hle
    -- so the divisor is as large as the dividend allows, and the division is exact
    obtain rfl : den = 2 ^ k * 2 := by omega
    have hexact : num * 2 ^ k = 2 ^ k * 2 * 2 ^ 52 := by omega
    rw [hexact, Nat.mul_mod_right] at hup
    omega

/-- The whole part of a quotient's double is that of the quotient. -/
theorem cut_ofRatio {num den : Nat} (hden : den ≠ 0) (hle : num ≤ 2 ^ 53) :
    cut (ofRatio false num den) = .ok (num / den : Nat) := by
  by_cases hnum : num = 0
  · have hzero : ofRatio false 0 den = Float.ofBits (UInt64.ofNat (false.toNat * 2 ^ 63 + 0)) := rfl
    have hparts := @parts_ofBits 0 (by omega) false
    rw [if_pos (Nat.zero_div _)] at hparts
    rw [hnum, Nat.zero_div, hzero, cut_of_parts hparts, wholePart, if_neg (by omega), Nat.zero_div]
  obtain ⟨hhigh, hlow⟩ := units_bounds hnum hden
  have hrounded := roundedUnits_cases num den (ratioExponent num den)
  have hexponent := @ratioExponent_le num den hle
  obtain ⟨m, e, hparts, hwhole⟩ := parts_ofRatio hnum hden (.inl (by omega)) false
  rw [cut_of_parts hparts, hwhole]
  congr 2
  clear hparts hwhole
  generalize ratioExponent num den = e at *
  obtain rfl | he : e = 1 ∨ e ≤ 0 := by omega
  · -- only the largest dividend, undivided, has this exponent
    have hlow := hlow.resolve_left (by decide)
    simp only [twoPow_eq] at hlow
    obtain ⟨rfl, rfl⟩ : den = 1 ∧ num = 2 ^ 53 := by
      have htwice : 2 ^ 52 * (den * 2) ≤ num * 1 := hlow
      omega
    rfl
  · have hone : twoPow e.toNat = 1 := by rw [show e.toNat = 0 by omega]; rfl
    have hcut : num * 2 ^ (-e).toNat / den / 2 ^ (-e).toNat = num / den := by
      rw [Nat.div_div_eq_div_mul, Nat.mul_div_mul_right _ _ (Nat.two_pow_pos _)]
    simp only [hone, Nat.mul_one, twoPow_eq] at hrounded hlow
    rw [wholePart_of_nonpos he]
    rcases hrounded with hdown | ⟨hup, hhalf⟩
    · rw [hdown, hcut]
    · have hnot := units_not_dvd hden hle (by omega) hhalf
      rw [hup, Nat.succ_div_of_not_dvd hnot, hcut]

theorem isInfinite_of_cut {x : Float} {n : Int} (h : cut x = .ok n) : isInfinite x = false := by
  unfold cut at h
  unfold isInfinite
  cases hparts : parts x with
  | finite => rfl
  | nan => rfl
  | infinite => simp [hparts] at h

end Persona.Number
