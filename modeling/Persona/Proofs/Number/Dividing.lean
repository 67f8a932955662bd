import Persona.Proofs.Number.Rounding

/-!
# Dividing

A quotient of doubles is computed with more digits than a mantissa has and then rounded. A divisor
from one on leaves the dividend at its exponent or below, so neither its whole part grows nor does
it become infinite. A quotient of whole numbers is rounded from its exact value, and infinite only
from half a unit below `2 ^ 1024` on.

Main statements: `exists_parts_div`, `isInfinite_ofRatio`, `exists_parts_ofInt`.
-/

namespace Persona.Number

open Float.Model Float.Model.UnpackedFloat

variable {m m₁ m₂ : Nat} {e e₁ e₂ : Int}

/-! ## Whole parts -/

theorem wholePart_mul_twoPow (m k : Nat) (e : Int) :
    wholePart (m * 2 ^ k) e = wholePart m (e + k) := by
  induction k generalizing e with
  | zero => rw [pow_zero, Nat.mul_one, Nat.cast_zero, add_zero]
  | succ k ih =>
      rw [pow_succ, ← Nat.mul_assoc, Nat.mul_comm _ 2, wholePart_double, ih, Nat.cast_succ]
      congr 1
      omega

theorem wholePart_mono (h : m₁ ≤ m₂) (e : Int) : wholePart m₁ e ≤ wholePart m₂ e := by
  unfold wholePart
  split
  · exact Nat.mul_le_mul_right _ h
  · exact Nat.div_le_div_right h

/-! ## Quotients of doubles -/

/-- A remainder only shows in the digits behind the quotient. -/
theorem quarters_fraction (q r d : Nat) :
    (r = 0 → quarters (.ofMantissaAndAccuracy q (accuracyOfFraction r d)) = 4 * q) ∧
      quarters (.ofMantissaAndAccuracy q (accuracyOfFraction r d)) < 4 * (q + 1) := by
  unfold accuracyOfFraction
  split
  case isTrue => exact ⟨fun _ => rfl, Nat.lt_add_of_pos_right (by decide)⟩
  case isFalse hr =>
    refine ⟨fun hzero => absurd hzero hr, ?_⟩
    cases compare (2 * r) d <;> simp [quarters, ExtendedMantissa.ofMantissaAndAccuracy] <;> omega

/-- Before a division the dividend is shifted so far that the quotient fills a mantissa, or to the
least exponent. -/
theorem divCore_cases (m₁ : Nat) (e₁ : Int) (m₂ : Nat) (e₂ : Int) :
    ∃ s : Nat, divCore Format.binary64 m₁ e₁ m₂ e₂ =
        (m₁ * 2 ^ s / m₂, e₁ - e₂ - s, accuracyOfFraction (m₁ * 2 ^ s % m₂) m₂) ∧
      (e₁ - e₂ - s ≤ -1074 ∨ m₂.log2 + 53 ≤ m₁.log2 + s) := by
  have htarget : Format.binary64.targetExponent (totalExponent m₁ e₁ - totalExponent m₂ e₂) =
      max ((m₁.log2 : Int) + 1 + e₁ - (m₂.log2 + 1 + e₂) - 53) (-1074) := rfl
  obtain ⟨s, hs⟩ : ∃ s : Nat, min (e₁ - e₂)
      (Format.binary64.targetExponent (totalExponent m₁ e₁ - totalExponent m₂ e₂)) =
        e₁ - e₂ - s := ⟨_, (Int.sub_sub_self _ _).symm.trans
          (congrArg (e₁ - e₂ - ·) (Int.toNat_of_nonneg (by omega)).symm)⟩
  refine ⟨s, ?_, by omega⟩
  unfold divCore
  simp only [hs, Nat.shiftLeft_eq, show (e₁ - e₂ - (e₁ - e₂ - (s : Int))).toNat = s by omega]

/-- A quotient by a mantissa with all its digits, against the dividend that lost as many. -/
theorem quotient_le {d n s : Nat} (hd : 2 ^ 52 ≤ d) (hs : s ≤ n + 52) :
    m * 2 ^ s / d ≤ m * 2 ^ n ∧
      (m * 2 ^ s / d = m * 2 ^ n → m * 2 ^ s % d = 0) := by
  have hdivide := Nat.div_add_mod (m * 2 ^ s) d
  have hscale : m * 2 ^ s ≤ m * 2 ^ n * 2 ^ 52 := by
    rw [mul_assoc, ← pow_add]
    exact Nat.mul_le_mul_left m (Nat.pow_le_pow_right two_pos hs)
  generalize m * 2 ^ s / d = q at *
  have hunits : 2 ^ 52 * q ≤ d * q := Nat.mul_le_mul_right q hd
  exact ⟨by omega, fun heq => by omega⟩

theorem le_quotient {s : Nat} (hm₁ : 0 < m₁) (hm₂ : 0 < m₂) (hs : m₂.log2 + 53 ≤ m₁.log2 + s) :
    2 ^ 52 ≤ m₁ * 2 ^ s / m₂ := by
  rw [Nat.le_div_iff_mul_le hm₂]
  calc 2 ^ 52 * m₂ ≤ 2 ^ 52 * 2 ^ (m₂.log2 + 1) := Nat.mul_le_mul_left _ Nat.lt_log2_self.le
    _ = 2 ^ (m₂.log2 + 53) := by rw [← pow_add]; congr 1; omega
    _ ≤ 2 ^ (m₁.log2 + s) := Nat.pow_le_pow_right two_pos hs
    _ = 2 ^ m₁.log2 * 2 ^ s := pow_add ..
    _ ≤ m₁ * 2 ^ s := Nat.mul_le_mul_right _ (Nat.log2_self_le hm₁.ne')

/-- What is at most `n` at its exponent is rounded to at most as much. -/
theorem mantissa_roundedAt_le_of_le {q r d n k : Nat}
    (he : (roundedAt q e (accuracyOfFraction r d)).2 = e + k) (hq : q ≤ n * 2 ^ k)
    (hexact : q = n * 2 ^ k → r = 0) : (roundedAt q e (accuracyOfFraction r d)).1 ≤ n := by
  refine mantissa_roundedAt_le he ?_
  have hsplit : (4 * n + 2) * 2 ^ k = 4 * (n * 2 ^ k) + 2 * 2 ^ k := by ring
  have hpos := Nat.two_pow_pos k
  obtain ⟨hwhole, hless⟩ := quarters_fraction q r d
  rcases hq.lt_or_eq with hlt | heq
  · omega
  · rw [hwhole (hexact heq)]
    omega

/-- Divided by a number from one on, a mantissa does not grow. -/
theorem roundedAt_divCore (hm₁ : 0 < m₁) (hlt₁ : m₁ < 2 ^ 53) (hleast : -1074 ≤ e₁)
    (hm₂ : 2 ^ 52 ≤ m₂) (he₂ : -52 ≤ e₂) :
    ∃ q e a, divCore Format.binary64 m₁ e₁ m₂ e₂ = (q, e, a) ∧
      e ≤ max (q.log2 + e - 52) (-1074) ∧ (roundedAt q e a).2 ≤ e₁ ∧
      (roundedAt q e a).1 ≤ m₁ * 2 ^ (e₁ - (roundedAt q e a).2).toNat := by
  obtain ⟨s, hcore, hshift⟩ := divCore_cases m₁ e₁ m₂ e₂
  have hlog₁ := (Nat.log2_lt hm₁.ne').mpr hlt₁
  have hlog₂ : 52 ≤ m₂.log2 := (Nat.le_log2 (by omega)).mpr hm₂
  -- the exponent of the quotient is not above that of the dividend
  obtain ⟨n, hn⟩ : ∃ n : Nat, e₁ - (e₁ - e₂ - s) = n := ⟨(e₁ - (e₁ - e₂ - s)).toNat, by omega⟩
  obtain ⟨hle, hexact⟩ := quotient_le (m := m₁) (n := n) (s := s) hm₂ (by omega)
  have hfull : e₁ - e₂ - s ≤ max ((m₁ * 2 ^ s / m₂).log2 + (e₁ - e₂ - s) - 52) (-1074) := by
    rcases hshift with hshift | hshift
    · omega
    · have hlow := le_quotient hm₁ (by omega) hshift
      have hlog := (Nat.le_log2 (by omega)).mpr hlow
      omega
  have hlog : (m₁ * 2 ^ s / m₂).log2 ≤ 52 + n := by
    rcases Nat.eq_zero_or_pos (m₁ * 2 ^ s / m₂) with hzero | hpos
    · rw [hzero, Nat.log2_zero]
      omega
    · have hlt : m₁ * 2 ^ s / m₂ < 2 ^ (53 + n) := by
        rw [pow_add]
        exact hle.trans_lt (Nat.mul_lt_mul_of_pos_right hlt₁ (Nat.two_pow_pos n))
      have := (Nat.log2_lt hpos.ne').mpr hlt
      omega
  generalize m₁ * 2 ^ s / m₂ = q at *
  generalize m₁ * 2 ^ s % m₂ = r at *
  have hat := exponent_roundedAt (a := accuracyOfFraction r m₂) hfull
  refine ⟨q, _, _, hcore, hfull, by omega, ?_⟩
  obtain ⟨t, ht⟩ : ∃ t, (roundedAt q (e₁ - e₂ - s) (accuracyOfFraction r m₂)).2 = t := ⟨_, rfl⟩
  have hpow : m₁ * 2 ^ (e₁ - t).toNat * 2 ^ (t - (e₁ - e₂ - s)).toNat = m₁ * 2 ^ n := by
    rw [mul_assoc, ← pow_add]
    congr 2
    omega
  rw [ht]
  refine mantissa_roundedAt_le_of_le (k := (t - (e₁ - e₂ - s)).toNat) (by omega) ?_ ?_
  · rw [hpow]
    exact hle
  · rw [hpow]
    exact hexact

theorem parts_div {x y : Float} {u : UnpackedFloat}
    (h : div Format.binary64 x.toModel.unpack y.toModel.unpack = u) :
    parts (x / y) = partsOf (unpack Format.binary64 (pack Format.binary64 u)) := by
  subst h
  exact parts_eq_partsOf _

/-- A finite double has 53 digits at most, and no fewer except at the least exponent. -/
theorem parts_bounds {x : Float} {negative : Bool} (h : parts x = .finite negative m e) :
    m < 2 ^ 53 ∧ -1074 ≤ e ∧ e ≤ 971 ∧ (e = -1074 ∨ 2 ^ 52 ≤ m) := by
  have hbits : x.toBits.toNat < 2 ^ 64 := x.toBits.toNat_lt
  unfold parts at h
  simp only [twoPow_eq, beq_iff_eq] at h
  split_ifs at h
  all_goals
    cases h
    omega

/-- A double from one on has all its digits. -/
theorem parts_bounds_of_one_le {x : Float} {negative : Bool} (h : parts x = .finite negative m e)
    (hone : 1 ≤ wholePart m e) : 2 ^ 52 ≤ m ∧ -52 ≤ e := by
  obtain ⟨hlt, -, -, hfull⟩ := parts_bounds h
  have hleast : -52 ≤ e := by
    by_contra hless
    rw [wholePart_of_nonpos (by omega), Nat.one_le_div_iff (Nat.two_pow_pos _)] at hone
    have hpow : 2 ^ 53 ≤ 2 ^ (-e).toNat := Nat.pow_le_pow_right two_pos (by omega)
    omega
  exact ⟨hfull.resolve_left (by omega), hleast⟩

theorem unpack_of_parts {x : Float} {negative : Bool} (h : parts x = .finite negative m e) :
    ∃ s, (s == .negative) = negative ∧ (m = 0 ∧ x.toModel.unpack = .zero s ∨
      ∃ hm, x.toModel.unpack = .finite s m e hm) := by
  rw [parts_eq_partsOf] at h
  cases hv : x.toModel.unpack with
  | notANumber => rw [hv] at h; cases h
  | infinity => rw [hv] at h; cases h
  | zero s => rw [hv] at h; cases h; exact ⟨s, rfl, .inl ⟨rfl, rfl⟩⟩
  | finite s m e hm => rw [hv] at h; cases h; exact ⟨s, rfl, .inr ⟨hm, rfl⟩⟩

theorem unpack_finite_of_parts {x : Float} {negative : Bool}
    (h : parts x = .finite negative m e) (hm : m ≠ 0) :
    ∃ s hm, (s == .negative) = negative ∧ x.toModel.unpack = .finite s m e hm := by
  obtain ⟨s, hs, hx⟩ := unpack_of_parts h
  obtain ⟨hm, hx⟩ := hx.resolve_left fun hzero => hm hzero.1
  exact ⟨s, hm, hs, hx⟩

theorem sign_div (s s' : Sign) :
    (s / s' == .negative) = ((s == .negative) != (s' == .negative)) := by
  cases s <;> cases s' <;> rfl

/-- A finite double divided by one that is not less than one has a whole part that is not larger
than its own. -/
theorem exists_parts_div {x y : Float} {negative negative' : Bool}
    (hx : parts x = .finite negative m₁ e₁) (hy : parts y = .finite negative' m₂ e₂)
    (hone : 1 ≤ wholePart m₂ e₂) :
    ∃ m e, parts (x / y) = .finite (negative != negative') m e ∧
      wholePart m e ≤ wholePart m₁ e₁ := by
  obtain ⟨hlt₁, hleast, hmost, -⟩ := parts_bounds hx
  obtain ⟨hdigits, he₂⟩ := parts_bounds_of_one_le hy hone
  obtain ⟨s', hm₂, hs', hy'⟩ := unpack_finite_of_parts hy (by omega)
  obtain ⟨s, hs, hx'⟩ := unpack_of_parts hx
  rw [← hs, ← hs', ← sign_div]
  rcases hx' with ⟨-, hx'⟩ | ⟨hm₁, hx'⟩
  · have hdiv : div Format.binary64 x.toModel.unpack y.toModel.unpack = .zero (s / s') := by
      rw [hx', hy']
      rfl
    exact ⟨0, -1074, (parts_div hdiv).trans (partsOf_zero _), by simp [wholePart]⟩
  · obtain ⟨q, e, a, hcore, hfull, hbelow, hle⟩ :=
      roundedAt_divCore hm₁ hlt₁ hleast hdigits he₂
    have hdiv : div Format.binary64 x.toModel.unpack y.toModel.unpack =
        roundWithAccuracy Format.binary64 (s / s') q e a := by
      rw [hx', hy']
      change roundWithAccuracy Format.binary64 (s / s') (divCore Format.binary64 m₁ e₁ m₂ e₂).1
        (divCore Format.binary64 m₁ e₁ m₂ e₂).2.1 (divCore Format.binary64 m₁ e₁ m₂ e₂).2.2 = _
      rw [hcore]
    have hfits : (roundedAt q e a).2 < 971 ∨
        (roundedAt q e a).2 = 971 ∧ (roundedAt q e a).1 < 2 ^ 53 := by
      rcases (hbelow.trans hmost).lt_or_eq with hless | heq
      · exact .inl hless
      · rw [show (e₁ - (roundedAt q e a).2).toNat = 0 by omega] at hle
        exact .inr ⟨heq, by omega⟩
    obtain ⟨m, e', hround, hwhole⟩ := partsOf_round (s / s') hfull hfits
    refine ⟨m, e', (parts_div hdiv).trans hround, ?_⟩
    calc wholePart m e' = wholePart (roundedAt q e a).1 (roundedAt q e a).2 := hwhole
      _ ≤ wholePart (m₁ * 2 ^ (e₁ - (roundedAt q e a).2).toNat) (roundedAt q e a).2 :=
        wholePart_mono hle _
      _ = wholePart m₁ e₁ := by
        rw [wholePart_mul_twoPow, Int.toNat_of_nonneg (by omega), add_sub_cancel]

/-! ## Quotients of whole numbers -/

/-- The least number that is rounded beyond every double, `2 ^ 1024 - 2 ^ 970`. -/
def overflow : Nat := (2 ^ 54 - 1) * 2 ^ 970

theorem le_overflow : 2 ^ 54 - 1 ≤ overflow := Nat.le_mul_of_pos_right _ (pow_pos two_pos 970)

variable {num den : Nat}

/-- Only what is at least half a unit from the last mantissa is rounded beyond it. -/
theorem roundedUnits_lt_iff (hden : den ≠ 0)
    (hlt : num * twoPow (-e).toNat < 2 ^ 53 * (den * twoPow e.toNat)) :
    roundedUnits num den e < 2 ^ 53 ↔
      2 * (num * twoPow (-e).toNat) < (2 ^ 54 - 1) * (den * twoPow e.toNat) := by
  unfold roundedUnits
  dsimp only
  have hd : 0 < den * twoPow e.toNat := Nat.mul_pos (Nat.pos_of_ne_zero hden) (Nat.two_pow_pos _)
  generalize num * twoPow (-e).toNat = n at *
  generalize den * twoPow e.toNat = d at *
  have hdivide := Nat.div_add_mod n d
  have hrest := Nat.mod_lt n hd
  have hq : n / d < 2 ^ 53 := (Nat.div_lt_iff_lt_mul hd).mpr hlt
  simp only [Bool.or_eq_true, Bool.and_eq_true, decide_eq_true_eq, beq_iff_eq]
  obtain hq | hq : n / d + 1 < 2 ^ 53 ∨ n / d = 2 ^ 53 - 1 := by omega
  · have hsmall : n < (2 ^ 53 - 1) * d := (Nat.div_lt_iff_lt_mul hd).mp (by omega)
    split <;> omega
  · rw [hq] at hdivide ⊢
    split <;> omega

/-- A quotient has an exponent below `k + 1`, or that one without a carry, if it is below half a
unit less than `2 ^ (k + 54)`. -/
theorem ratio_lt_iff (hnum : num ≠ 0) (hden : den ≠ 0) (k : Nat) :
    (ratioExponent num den < k + 1 ∨ ratioExponent num den = k + 1 ∧
      roundedUnits num den (ratioExponent num den) < 2 ^ 53) ↔
        num < (2 ^ 54 - 1) * 2 ^ k * den := by
  obtain ⟨hhigh, hlow⟩ := units_bounds hnum hden
  have hunits := @roundedUnits_lt_iff (ratioExponent num den) num den hden hhigh
  generalize ratioExponent num den = e at *
  simp only [twoPow_eq] at hhigh hlow hunits
  have hone : num ≤ num * 2 ^ (-e).toNat := Nat.le_mul_of_pos_right _ (Nat.two_pow_pos _)
  obtain ⟨u, hu⟩ : ∃ u, den * 2 ^ k = u := ⟨_, rfl⟩
  rw [Nat.mul_assoc, Nat.mul_comm (2 ^ k), hu]
  obtain he | he | he : e ≤ k ∨ e = k + 1 ∨ k + 2 ≤ e := by omega
  · have hpow : den * 2 ^ e.toNat ≤ u := by
      rw [← hu]
      exact Nat.mul_le_mul_left _ (Nat.pow_le_pow_right two_pos (by omega))
    omega
  · have hpow : den * 2 ^ e.toNat = 2 * u := by
      rw [← hu, show e.toNat = k + 1 by omega, pow_succ]
      ring
    rw [hpow, show (-e).toNat = 0 by omega, pow_zero] at hunits
    omega
  · have hpow : 4 * u ≤ den * 2 ^ e.toNat := by
      calc 4 * u = den * 2 ^ (k + 2) := by rw [← hu, pow_add]; ring
        _ ≤ den * 2 ^ e.toNat := Nat.mul_le_mul_left _ (Nat.pow_le_pow_right two_pos (by omega))
    have hlow := hlow.resolve_left (by omega)
    rw [show (-e).toNat = 0 by omega, pow_zero] at hlow
    omega

/-- A quotient is rounded to a finite double if it is below the limit. -/
theorem ratio_fits_iff (hnum : num ≠ 0) (hden : den ≠ 0) :
    (ratioExponent num den < 971 ∨ ratioExponent num den = 971 ∧
      roundedUnits num den (ratioExponent num den) < 2 ^ 53) ↔ num < overflow * den :=
  ratio_lt_iff hnum hden 970

theorem isInfinite_of_parts {x : Float} {negative : Bool} (h : parts x = .finite negative m e) :
    isInfinite x = false := by
  rw [isInfinite, h]

/-- A quotient that is not too large is a finite double. -/
theorem exists_parts_ofRatio (hden : den ≠ 0) (h : num < overflow * den) (negative : Bool) :
    ∃ m e, parts (ofRatio negative num den) = .finite negative m e := by
  by_cases hnum : num = 0
  · have hzero : ofRatio negative num den =
        Float.ofBits (UInt64.ofNat (negative.toNat * 2 ^ 63 + 0)) := by
      rw [ofRatio, if_pos (beq_iff_eq.mpr hnum), signBits_eq, Nat.add_zero]
    have hparts := @parts_ofBits 0 (by omega) negative
    rw [if_pos (Nat.zero_div _)] at hparts
    exact ⟨0, -1074, by rw [hzero, hparts]⟩
  · obtain ⟨m, e, hparts, -⟩ := parts_ofRatio hnum hden ((ratio_fits_iff hnum hden).mpr h) negative
    exact ⟨m, e, hparts⟩

theorem isInfinite_ofRatio (hden : den ≠ 0) (negative : Bool) :
    isInfinite (ofRatio negative num den) = true ↔ overflow * den ≤ num := by
  by_cases h : num < overflow * den
  · obtain ⟨m, e, hparts⟩ := exists_parts_ofRatio hden h negative
    rw [isInfinite_of_parts hparts]
    exact iff_of_false Bool.false_ne_true (not_le.mpr h)
  · have hnum : num ≠ 0 := by
      rintro rfl
      exact h (Nat.mul_pos (Nat.lt_of_lt_of_le (by decide) le_overflow) (Nat.pos_of_ne_zero hden))
    have hbits : 2047 * 2 ^ 52 ≤ (ratioExponent num den + 1074).toNat * 2 ^ 52 +
        roundedUnits num den (ratioExponent num den) := by
      have hfull := (roundedUnits_bounds hnum hden).2
      have hunfit := mt (ratio_fits_iff hnum hden).mp h
      omega
    refine iff_of_true ?_ (not_lt.mp h)
    unfold ofRatio
    rw [if_neg (mt beq_iff_eq.mp hnum)]
    dsimp only
    rw [twoPow_eq 52, Nat.min_eq_right hbits]
    cases negative <;> decide

/-- A whole number other than zero that is not too large is a finite double from one on. -/
theorem exists_parts_ofInt {n : Int} (hn : n ≠ 0) (h : n.natAbs < overflow) :
    ∃ m e, parts (ofInt n) = .finite (n < 0) m e ∧ 1 ≤ wholePart m e := by
  have hnum : n.natAbs ≠ 0 := Int.natAbs_ne_zero.mpr hn
  obtain ⟨m, e, hparts, hwhole⟩ := parts_ofRatio hnum one_ne_zero
    ((ratio_fits_iff hnum one_ne_zero).mpr (by rwa [Nat.mul_one])) (n < 0)
  refine ⟨m, e, hparts, ?_⟩
  rw [hwhole]
  have hfull := (roundedUnits_bounds hnum one_ne_zero).2
  have hrounded := roundedUnits_cases n.natAbs 1 (ratioExponent n.natAbs 1)
  generalize ratioExponent n.natAbs 1 = e at *
  by_cases he : e ≤ 0
  · have hone : twoPow e.toNat = 1 := by rw [show e.toNat = 0 by omega]; rfl
    rw [wholePart_of_nonpos he, Nat.one_le_div_iff (Nat.two_pow_pos _)]
    simp only [hone, Nat.mul_one, Nat.div_one, twoPow_eq] at hrounded
    have hle : 2 ^ (-e).toNat ≤ n.natAbs * 2 ^ (-e).toNat :=
      Nat.le_mul_of_pos_left _ (Nat.pos_of_ne_zero hnum)
    omega
  · rw [wholePart, if_pos (by omega)]
    exact Nat.mul_pos (by omega) (Nat.two_pow_pos _)

/-! ## Doubles with a whole part -/

/-- A double that is neither infinite nor without a value. -/
def IsFinite (x : Float) : Prop := ∃ negative m e, parts x = .finite negative m e

theorem exists_cut {x : Float} {negative : Bool} (h : parts x = .finite negative m e) :
    ∃ k, cut x = .ok k ∧ k ≤ wholePart m e := by
  unfold cut
  rw [h]
  cases negative with
  | false => exact ⟨_, rfl, le_refl _⟩
  | true => exact ⟨_, rfl, by omega⟩

theorem isFinite_of_cut {x : Float} {k : Int} (h : cut x = .ok k) : IsFinite x := by
  unfold cut at h
  cases hparts : parts x with
  | finite negative m e => exact ⟨negative, m, e, hparts⟩
  | nan => simp [hparts] at h
  | infinite => simp [hparts] at h

theorem partsOf_infinity (s : Sign) :
    partsOf (unpack Format.binary64 (pack Format.binary64 (.infinity s))) =
      .infinite (s == .negative) := by
  cases s <;> rfl

/-- Division by a number other than zero makes nothing finite. -/
theorem isFinite_of_div {x y : Float} {negative : Bool} (hy : parts y = .finite negative m e)
    (hm : m ≠ 0) (h : IsFinite (x / y)) : IsFinite x := by
  obtain ⟨s', hm', -, hy'⟩ := unpack_finite_of_parts hy hm
  obtain ⟨negative', m', e', hparts⟩ := h
  unfold IsFinite
  rw [parts_eq_partsOf x]
  cases hx : x.toModel.unpack with
  | zero s => exact ⟨_, _, _, rfl⟩
  | finite s m e hm => exact ⟨_, _, _, rfl⟩
  | notANumber =>
      have hdiv : div Format.binary64 x.toModel.unpack y.toModel.unpack = .notANumber := by
        rw [hx]
        rfl
      have hnan := parts_div hdiv
      rw [hparts] at hnan
      cases hnan
  | infinity s =>
      have hdiv : div Format.binary64 x.toModel.unpack y.toModel.unpack = .infinity (s / s') := by
        rw [hx, hy']
        rfl
      have hinfinite := (parts_div hdiv).trans (partsOf_infinity _)
      rw [hparts] at hinfinite
      cases hinfinite

theorem beq_zero_of_parts {x : Float} {negative : Bool} (h : parts x = .finite negative m e)
    (hm : m ≠ 0) : (x == 0.0) = false := by
  obtain ⟨s, hm', -, hx⟩ := unpack_finite_of_parts h hm
  have hzero : (0.0 : Float).toModel.unpack = .zero .positive := rfl
  change (x.toModel.unpack.compare (0.0 : Float).toModel.unpack == some .eq) = false
  rw [hx, hzero]
  cases s <;> rfl

end Persona.Number
