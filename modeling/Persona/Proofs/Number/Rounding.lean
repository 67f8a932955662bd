import Persona.Proofs.Number.Bounded
import Persona.Proofs.Number.Quotients

/-!
# Rounding to doubles

A value is rounded at one exponent, which its digits tell: there its mantissa keeps 53 of them, and
a rounding up that carries raises the exponent by one. Two digits more and whether anything follows
decide the rounding, so bounds on a value are kept as bounds on four times its mantissa. The result
is read by its parts, as whole parts and floors are.

Main statement: `floor_mul_lt`, a share of a whole number is less than the number.
-/

namespace Persona.Number

open Float.Model Float.Model.UnpackedFloat

/-! ## Digits that are dropped -/

/-- A mantissa with the two digits kept for rounding, in quarters. Beyond the first quarter the
order is that of the values they stand for. -/
def quarters (em : ExtendedMantissa) : Nat :=
  4 * em.mantissa + 2 * em.roundBit.toNat + em.stickyBit.toNat

theorem quarters_shiftRightOne_lt {em : ExtendedMantissa} {b : Nat}
    (h : quarters em < 2 * (2 * b)) : quarters em.shiftRightOne < 2 * b := by
  obtain ⟨m, roundBit, stickyBit⟩ := em
  have hparity : m % 2 = 0 ∨ m % 2 = 1 := by omega
  cases roundBit <;> cases stickyBit <;> rcases hparity with hm | hm <;>
    simp [quarters, ExtendedMantissa.shiftRightOne, hm] at h ⊢ <;> omega

theorem quarters_shiftRight_lt {em : ExtendedMantissa} {b k : Nat}
    (h : quarters em < 2 * b * 2 ^ k) : quarters (em >>> k) < 2 * b := by
  induction k generalizing b with
  | zero =>
      rw [pow_zero, Nat.mul_one] at h
      exact h
  | succ k ih =>
      refine quarters_shiftRightOne_lt (ih ?_)
      rw [pow_succ] at h
      linarith

theorem roundedMantissa_le_of_quarters {em : ExtendedMantissa} {n : Nat}
    (h : quarters em < 4 * n + 2) : em.roundedMantissa ≤ n := by
  obtain ⟨m, roundBit, stickyBit⟩ := em
  cases roundBit <;> cases stickyBit <;>
    simp [quarters, ExtendedMantissa.roundedMantissa, ExtendedMantissa.accuracy,
      Accuracy.roundToNearestEven] at h ⊢ <;> omega

/-! ## Rounding -/

/-- The exponent and the mantissa that a value is first rounded to. -/
def roundedAt (m : Nat) (e : Int) (a : Accuracy) : Nat × Int :=
  ((shiftToTargetExponent Format.binary64 m e a).1.roundedMantissa,
    (shiftToTargetExponent Format.binary64 m e a).2)

variable {m : Nat} {e : Int} {a : Accuracy}

theorem targetExponent_eq (m : Nat) (e : Int) :
    Format.binary64.targetExponent (totalExponent m e) = max (m.log2 + e - 52) (-1074) := by
  change max ((m.log2 : Int) + 1 + e - 53) (-1074) = _
  congr 1
  omega

theorem exponent_roundedAt (he : e ≤ max (m.log2 + e - 52) (-1074)) :
    (roundedAt m e a).2 = max (m.log2 + e - 52) (-1074) := by
  change e + (Format.binary64.targetExponent (totalExponent m e) - e).toNat = _
  rw [targetExponent_eq]
  omega

theorem least_le_roundedAt (he : e ≤ max (m.log2 + e - 52) (-1074)) :
    -1074 ≤ (roundedAt m e a).2 := by
  rw [exponent_roundedAt he]
  exact le_max_right _ _

theorem mantissa_roundedAt_le {n k : Nat} (he : (roundedAt m e a).2 = e + k)
    (h : quarters (.ofMantissaAndAccuracy m a) < (4 * n + 2) * 2 ^ k) :
    (roundedAt m e a).1 ≤ n := by
  have hk : (Format.binary64.targetExponent (totalExponent m e) - e).toNat = k := by
    have he : e + (Format.binary64.targetExponent (totalExponent m e) - e).toNat = e + k := he
    omega
  refine roundedMantissa_le_of_quarters ?_
  have hshift : (shiftToTargetExponent Format.binary64 m e a).1 =
      ExtendedMantissa.ofMantissaAndAccuracy m a >>> k := by
    rw [← hk]
    rfl
  rw [hshift, show 4 * n + 2 = 2 * (2 * n + 1) by ring]
  exact quarters_shiftRight_lt (by linarith)

theorem mantissa_le_roundedMantissa (em : ExtendedMantissa) : em.mantissa ≤ em.roundedMantissa := by
  obtain ⟨m, roundBit, stickyBit⟩ := em
  cases roundBit <;> cases stickyBit <;>
    simp [ExtendedMantissa.roundedMantissa, ExtendedMantissa.accuracy, Accuracy.roundToNearestEven]

/-- Rounding leaves a mantissa of 53 digits or the least number with one more; fewer digits are left
at the least exponent only. -/
theorem mantissa_roundedAt_bounds (he : e ≤ max (m.log2 + e - 52) (-1074)) :
    (roundedAt m e a).1 ≤ 2 ^ 53 ∧
      ((roundedAt m e a).2 = -1074 ∨ 2 ^ 52 ≤ (roundedAt m e a).1) := by
  have hexponent := exponent_roundedAt (a := a) he
  have hfloor := mantissa_shiftToTargetExponent m e a
  have hlow := mantissa_le_roundedMantissa (shiftToTargetExponent Format.binary64 m e a).1
  have hhigh := roundedMantissa_le (shiftToTargetExponent Format.binary64 m e a).1
  rw [hfloor, targetExponent_eq] at hlow hhigh
  change _ ≤ (roundedAt m e a).1 at hlow
  change (roundedAt m e a).1 ≤ _ at hhigh
  obtain ⟨k, hk⟩ : ∃ k, (max (m.log2 + e - 52) (-1074) - e).toNat = k := ⟨_, rfl⟩
  rw [hk] at hlow hhigh
  constructor
  · have hdigits : m / 2 ^ k < 2 ^ 53 := by
      rw [Nat.div_lt_iff_lt_mul (Nat.two_pow_pos k), ← pow_add]
      exact Nat.lt_log2_self.trans_le (Nat.pow_le_pow_right two_pos (by omega))
    omega
  · refine or_iff_not_imp_left.mpr fun hleast => le_trans ?_ hlow
    have hm : m ≠ 0 := by
      rintro rfl
      rw [Nat.log2_zero] at he hexponent
      omega
    rw [Nat.le_div_iff_mul_le (Nat.two_pow_pos k), ← pow_add]
    exact (Nat.pow_le_pow_right two_pos (by omega)).trans (Nat.log2_self_le hm)

/-- What is already rounded stays as it is. -/
theorem shiftToTargetExponent_of_lt (hm : m < 2 ^ 53) (he : -1074 ≤ e) :
    shiftToTargetExponent Format.binary64 m e .exact = (⟨m, false, false⟩, e) := by
  have hlog : m.log2 ≤ 52 := by
    rcases Nat.eq_zero_or_pos m with rfl | hpos
    · decide
    · have := (Nat.log2_lt hpos.ne').mpr hm
      omega
  have hshift : (Format.binary64.targetExponent (totalExponent m e) - e).toNat = 0 := by
    rw [targetExponent_eq]
    omega
  change (ExtendedMantissa.mk m false false >>>
    (Format.binary64.targetExponent (totalExponent m e) - e).toNat, e +
      ((Format.binary64.targetExponent (totalExponent m e) - e).toNat : Int)) = _
  rw [hshift, Nat.cast_zero, add_zero]
  rfl

theorem shiftToTargetExponent_carry (he : -1074 ≤ e) :
    shiftToTargetExponent Format.binary64 (2 ^ 53) e .exact = (⟨2 ^ 52, false, false⟩, e + 1) := by
  have hshift : (Format.binary64.targetExponent (totalExponent (2 ^ 53) e) - e).toNat = 1 := by
    rw [targetExponent_eq, Nat.log2_two_pow]
    omega
  change (ExtendedMantissa.mk (2 ^ 53) false false >>>
    (Format.binary64.targetExponent (totalExponent (2 ^ 53) e) - e).toNat, e +
      ((Format.binary64.targetExponent (totalExponent (2 ^ 53) e) - e).toNat : Int)) = _
  rw [hshift]
  rfl

/-- A value is rounded at one exponent, and the carry of a digit raises it. -/
theorem roundWithAccuracy_cases (s : Sign) (he : e ≤ max (m.log2 + e - 52) (-1074)) :
    (roundedAt m e a).1 = 0 ∧ roundWithAccuracy Format.binary64 s m e a = .zero s ∨
      (∃ h : 0 < (roundedAt m e a).1, (roundedAt m e a).1 < 2 ^ 53 ∧
        roundWithAccuracy Format.binary64 s m e a =
          .finite s (roundedAt m e a).1 (roundedAt m e a).2 h) ∨
      (roundedAt m e a).1 = 2 ^ 53 ∧ roundWithAccuracy Format.binary64 s m e a =
        .finite s (2 ^ 52) ((roundedAt m e a).2 + 1) (by decide) := by
  obtain ⟨hle, -⟩ := mantissa_roundedAt_bounds (a := a) he
  have hleast := least_le_roundedAt (a := a) he
  have hround : roundWithAccuracy Format.binary64 s m e a =
      if h : (shiftToTargetExponent Format.binary64 (roundedAt m e a).1 (roundedAt m e a).2
          .exact).1.mantissa = 0 then .zero s
      else .finite s (shiftToTargetExponent Format.binary64 (roundedAt m e a).1
        (roundedAt m e a).2 .exact).1.mantissa (shiftToTargetExponent Format.binary64
          (roundedAt m e a).1 (roundedAt m e a).2 .exact).2 (Nat.pos_of_ne_zero h) := rfl
  rw [hround]
  generalize (roundedAt m e a).1 = r at *
  generalize (roundedAt m e a).2 = t at *
  rcases hle.lt_or_eq with hlt | rfl
  · rw [shiftToTargetExponent_of_lt hlt hleast]
    rcases Nat.eq_zero_or_pos r with rfl | hpos
    · exact .inl ⟨rfl, rfl⟩
    · exact .inr (.inl ⟨hpos, hlt, dif_neg hpos.ne'⟩)
  · rw [shiftToTargetExponent_carry hleast]
    exact .inr (.inr ⟨rfl, rfl⟩)

/-! ## Doubles by their parts -/

/-- The parts of an unpacked double. -/
def partsOf : UnpackedFloat → Parts
  | .notANumber => .nan
  | .infinity s => .infinite (s == .negative)
  | .zero s => .finite (s == .negative) 0 (-1074)
  | .finite s m e _ => .finite (s == .negative) m e

theorem toNat_unpackExponent (b : BitVec 64) :
    (@unpackExponent Format.binary64 b).toNat = b.toNat / 2 ^ 52 % 2048 := by
  rw [unpackExponent, BitVec.toNat_cast, BitVec.extractLsb_toNat, Nat.shiftRight_eq_div_pow]
  rfl

theorem toNat_unpackMantissa (b : BitVec 64) :
    (@unpackMantissa Format.binary64 b).toNat = b.toNat % 2 ^ 52 := by
  rw [unpackMantissa, BitVec.toNat_cast, BitVec.extractLsb_toNat, Nat.shiftRight_zero]
  rfl

theorem ofBitVec_unpackSign (b : BitVec 64) :
    (Sign.ofBitVec (@unpackSign Format.binary64 b) == .negative) = (b.toNat / 2 ^ 63 == 1) := by
  have hsign : (@unpackSign Format.binary64 b).toNat = b.toNat / 2 ^ 63 := by
    rw [unpackSign, BitVec.toNat_cast, BitVec.extractLsb_toNat, Nat.shiftRight_eq_div_pow]
    have hlt : b.toNat / 2 ^ 63 < 2 := by
      have := b.isLt
      omega
    exact Nat.mod_eq_of_lt hlt
  rw [← hsign]
  generalize @unpackSign Format.binary64 b = bit
  revert bit
  decide

theorem parts_eq_partsOf (x : Float) : parts x = partsOf x.toModel.unpack := by
  have hexponent := toNat_unpackExponent x.toModel.toBits.toBitVec
  have hmantissa := toNat_unpackMantissa x.toModel.toBits.toBitVec
  have hsign := ofBitVec_unpackSign x.toModel.toBits.toBitVec
  have hbits : x.toModel.toBits.toBitVec.toNat = x.toBits.toNat := rfl
  rw [hbits] at hexponent hmantissa hsign
  have hlast : @unpackExponent Format.binary64 x.toModel.toBits.toBitVec = -1#11 ↔
      x.toBits.toNat / 2 ^ 52 % 2048 = 2047 := by
    rw [← hexponent, ← BitVec.toNat_inj]
    rfl
  have hfirst : @unpackExponent Format.binary64 x.toModel.toBits.toBitVec = 0#11 ↔
      x.toBits.toNat / 2 ^ 52 % 2048 = 0 := by
    rw [← hexponent, ← BitVec.toNat_inj]
    rfl
  have hzero : @unpackMantissa Format.binary64 x.toModel.toBits.toBitVec = 0#52 ↔
      x.toBits.toNat % 2 ^ 52 = 0 := by
    rw [← hmantissa, ← BitVec.toNat_inj]
    rfl
  unfold parts Float.Model.unpack UnpackedFloat.unpack
  simp only [twoPow_eq, beq_iff_eq, hlast, hfirst, hzero]
  split_ifs with hinfinite _ hsmall hnull <;> simp only [partsOf, hsign]
  · rw [hnull]
  · rw [hmantissa, hexponent, hsmall]
    rfl
  · have hfull := toNat_implicit (@unpackMantissa Format.binary64 x.toModel.toBits.toBitVec)
    rw [hmantissa, Nat.add_comm (2 ^ 52)] at hfull
    rw [hfull, hexponent]
    rfl

theorem unpack_pack_finite {s : Sign} {hm : 0 < m} (hlt : m < 2 ^ 53)
    (hfull : e = -1074 ∨ 2 ^ 52 ≤ m) (hleast : -1074 ≤ e) (hmost : e ≤ 971) :
    unpack Format.binary64 (pack Format.binary64 (.finite s m e hm)) = .finite s m e hm := by
  obtain ⟨biased, hbiased⟩ : ∃ b, (e + 1023 + 52).toNat = b := ⟨_, rfl⟩
  change unpack Format.binary64 (if 2048 ≤ (e + 1023 + 52).toNat + 1 then _ else
    if m.log2 + 1 = 53 then packComponents _ s (BitVec.ofNat 11 (e + 1023 + 52).toNat)
      (BitVec.ofNat 52 m)
    else packComponents _ s 0#11 (BitVec.ofNat 52 m)) = _
  rw [hbiased, if_neg (by omega)]
  have hmantissa : (BitVec.ofNat 52 m).toNat = m % 2 ^ 52 := BitVec.toNat_ofNat ..
  by_cases hdigits : 2 ^ 52 ≤ m
  · have hlog : m.log2 = 52 := (Nat.log2_eq_iff hm.ne').mpr ⟨hdigits, hlt⟩
    have hexponent : (BitVec.ofNat 11 biased).toNat = biased := Nat.mod_eq_of_lt (by omega)
    have hne {n : Nat} (hn : n < 2048) (hb : biased ≠ n) :
        BitVec.ofNat 11 biased ≠ BitVec.ofNat 11 n := by
      intro heq
      have hnat := congrArg BitVec.toNat heq
      rw [hexponent, BitVec.toNat_ofNat, Nat.mod_eq_of_lt hn] at hnat
      exact hb hnat
    rw [if_pos (by omega), unpack_normal s _ (hne (n := 2047) (by decide) (by omega))
      (hne (n := 0) (by decide) (by omega))]
    congr 1
    · rw [hmantissa]
      omega
    · rw [hexponent]
      omega
  · have hlog : m.log2 < 52 := (Nat.log2_lt hm.ne').mpr (by omega)
    obtain rfl : e = -1074 := hfull.resolve_right hdigits
    rw [Nat.mod_eq_of_lt (by omega)] at hmantissa
    have hpos : BitVec.ofNat 52 m ≠ 0#52 := by
      intro heq
      have hnat := congrArg BitVec.toNat heq
      rw [hmantissa] at hnat
      exact hm.ne' hnat
    rw [if_neg (by omega)]
    unfold UnpackedFloat.unpack
    simp only [unpackExponent_packComponents, unpackMantissa_packComponents,
      unpackSign_packComponents, Sign.ofBitVec_toBitVec, hmantissa]
    rw [if_neg (by decide), if_pos trivial, dif_neg hpos]
    rfl

/-- What is rounded and not too large is a finite double, with the whole part of what it was first
rounded to. -/
theorem partsOf_round (s : Sign) (he : e ≤ max (m.log2 + e - 52) (-1074))
    (hmost : (roundedAt m e a).2 < 971 ∨
      (roundedAt m e a).2 = 971 ∧ (roundedAt m e a).1 < 2 ^ 53) :
    ∃ m' e', partsOf (unpack Format.binary64 (pack Format.binary64
        (roundWithAccuracy Format.binary64 s m e a))) = .finite (s == .negative) m' e' ∧
      wholePart m' e' = wholePart (roundedAt m e a).1 (roundedAt m e a).2 := by
  obtain ⟨-, hfull⟩ := mantissa_roundedAt_bounds (a := a) he
  have hleast := least_le_roundedAt (a := a) he
  rcases roundWithAccuracy_cases (a := a) s he with ⟨hzero, hround⟩ | ⟨hpos, hlt, hround⟩ |
    ⟨hcarry, hround⟩
  · rw [hround, hzero]
    refine ⟨0, -1074, by cases s <;> rfl, ?_⟩
    simp [wholePart]
  · rw [hround, unpack_pack_finite hlt hfull hleast (by omega)]
    exact ⟨_, _, rfl, rfl⟩
  · rw [hround, unpack_pack_finite (by decide) (.inr le_rfl) (by omega) (by omega), hcarry]
    exact ⟨_, _, rfl, (wholePart_double _ _).symm⟩

theorem floor_of_parts {x : Float} (h : parts x = .finite false m e) :
    floor x = wholePart m e := by
  rw [floor, h]

theorem floor_of_parts_zero {x : Float} {negative : Bool} (h : parts x = .finite negative 0 e) :
    floor x = 0 := by
  cases negative <;> simp [floor, h, wholePart]

theorem le_iff_compare {x y : Float} :
    x ≤ y ↔ (x.toModel.unpack.compare y.toModel.unpack).any (·.isLE) = true := by
  change decide (_ = true) = true ↔ _
  rw [decide_eq_true_iff]
  rfl

/-- A double from zero on and below one is a zero, or its mantissa lies behind the point. -/
theorem unpack_of_lt_one {x : Float} (hx : 0.0 ≤ x) (hx' : x < 1.0) :
    (∃ s, x.toModel.unpack = .zero s) ∨
      ∃ m e hm, x.toModel.unpack = .finite .positive m e hm ∧ m < 2 ^ 53 ∧ e ≤ -53 := by
  have hzero : (0.0 : Float).toModel.unpack = .zero .positive := rfl
  have hone : (1.0 : Float).toModel.unpack = .finite .positive (2 ^ 52) (-52) (by decide) := rfl
  rw [le_iff_compare, hzero] at hx
  rw [lt_iff_compare, hone] at hx'
  match hv : x.toModel.unpack, hx, hx' with
  | .zero s, _, _ => exact .inl ⟨s, rfl⟩
  | .finite .positive m e hm, _, hx' =>
      obtain ⟨hlt, hnormal⟩ := unpack_finite hv
      rw [compare_finite] at hx'
      exact .inr ⟨m, e, hm, rfl, hlt, by omega⟩

theorem parts_mul {x y : Float} {u : UnpackedFloat}
    (h : mul Format.binary64 x.toModel.unpack y.toModel.unpack = u) :
    parts (x * y) = partsOf (unpack Format.binary64 (pack Format.binary64 u)) := by
  subst h
  exact parts_eq_partsOf _

theorem partsOf_zero (s : Sign) :
    partsOf (unpack Format.binary64 (pack Format.binary64 (.zero s))) =
      .finite (s == .negative) 0 (-1074) := by
  cases s <;> rfl

theorem exponent_mul_le {m₁ : Nat} (hm₁ : 0 < m₁) (hm : 2 ^ 52 ≤ m) (e : Int) :
    e ≤ max ((m₁ * m).log2 + e - 52) (-1074) := by
  have hlog : 52 ≤ (m₁ * m).log2 := by
    rw [Nat.le_log2 (Nat.mul_pos hm₁ (by omega)).ne']
    exact hm.trans (Nat.le_mul_of_pos_left m hm₁)
  omega

/-- A mantissa of 53 digits that is not the least one, scaled down, is rounded to less than it
was. -/
theorem roundedAt_mul_lt {m₁ n k : Nat} (hm₁ : 0 < m₁) (hlt₁ : m₁ < 2 ^ 53)
    (hdigits : 2 ^ 52 < m) (hlt : m < 2 ^ 53) (hleast : -1074 ≤ e) (he : e ≤ 0)
    (hn : m = n * 2 ^ (-e).toNat) :
    (roundedAt (m₁ * m) (-53 - k + e) .exact).2 ≤ e ∧
      wholePart (roundedAt (m₁ * m) (-53 - k + e) .exact).1
        (roundedAt (m₁ * m) (-53 - k + e) .exact).2 < n := by
  have hproduct : m₁ * m ≠ 0 := (Nat.mul_pos hm₁ (by omega)).ne'
  have hexponent := exponent_mul_le hm₁ hdigits.le (-53 - k + e)
  have hat := exponent_roundedAt (a := .exact) hexponent
  obtain ⟨hle, -⟩ := mantissa_roundedAt_bounds (a := .exact) hexponent
  have hmost : (m₁ * m).log2 < 106 := by
    rw [Nat.log2_lt hproduct]
    calc m₁ * m < 2 ^ 53 * 2 ^ 53 := Nat.mul_lt_mul'' hlt₁ hlt
      _ = 2 ^ 106 := by decide
  have hbelow : (roundedAt (m₁ * m) (-53 - k + e) .exact).2 ≤ e := by omega
  refine ⟨hbelow, ?_⟩
  rw [wholePart_of_nonpos (by omega), Nat.div_lt_iff_lt_mul (Nat.two_pow_pos _)]
  rcases hbelow.lt_or_eq with hless | heq
  · -- there is one digit more behind the point
    obtain ⟨d, hd⟩ : ∃ d, (-(roundedAt (m₁ * m) (-53 - k + e) .exact).2).toNat =
        (-e).toNat + 1 + d := ⟨_, (Nat.add_sub_of_le (by omega)).symm⟩
    rw [hd, pow_add, pow_succ, ← mul_assoc, ← mul_assoc, ← hn]
    have hpow := Nat.one_le_two_pow (n := d)
    nlinarith
  · -- at the exponent it had, less than half a unit is missing to one unit less
    have hquarters : 4 * (m₁ * m) < (4 * (m - 1) + 2) * 2 ^ (53 + k) := by
      calc 4 * (m₁ * m) ≤ 4 * ((2 ^ 53 - 1) * m) := by gcongr; omega
        _ < (4 * (m - 1) + 2) * 2 ^ 53 := by omega
        _ ≤ (4 * (m - 1) + 2) * 2 ^ (53 + k) := by gcongr <;> omega
    have hround := mantissa_roundedAt_le (a := .exact) (e := -53 - k + e) (by omega)
      hquarters
    rw [heq, ← hn]
    omega

/-- A part of a whole number, whose mantissa is not the least one, is less than it. -/
theorem floor_mul_lt {x y : Float} {n : Nat} {hm : 0 < m} (hx : 0.0 ≤ x) (hx' : x < 1.0)
    (hy : y.toModel.unpack = .finite .positive m e hm) (hdigits : 2 ^ 52 < m) (hlt : m < 2 ^ 53)
    (hleast : -1074 ≤ e) (he : e ≤ 0) (hn : m = n * 2 ^ (-e).toNat) : floor (x * y) < n := by
  rcases unpack_of_lt_one hx hx' with ⟨s, hx⟩ | ⟨m₁, e₁, hm₁, hx, hlt₁, he₁⟩
  · have hmul : mul Format.binary64 x.toModel.unpack y.toModel.unpack = .zero (s * .positive) := by
      rw [hx, hy]
      rfl
    have hpos : 0 < n := Nat.pos_of_mul_pos_right (hn ▸ hm)
    rw [floor_of_parts_zero ((parts_mul hmul).trans (partsOf_zero _))]
    omega
  · obtain ⟨k, rfl⟩ : ∃ k : Nat, e₁ = -53 - k := ⟨(-53 - e₁).toNat, by omega⟩
    have hmul : mul Format.binary64 x.toModel.unpack y.toModel.unpack =
        roundWithAccuracy Format.binary64 .positive (m₁ * m) (-53 - k + e) .exact := by
      rw [hx, hy]
      rfl
    obtain ⟨hbelow, hless⟩ := roundedAt_mul_lt (k := k) hm₁ hlt₁ hdigits hlt hleast he hn
    obtain ⟨m', e', hround, hwhole⟩ := partsOf_round (a := .exact) .positive
      (exponent_mul_le hm₁ hdigits.le (-53 - k + e)) (.inl (by omega))
    rw [floor_of_parts ((parts_mul hmul).trans hround), hwhole]
    omega

end Persona.Number
