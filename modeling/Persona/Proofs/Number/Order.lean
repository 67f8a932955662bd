import Persona.Proofs.Number.Dividing

/-!
# The order of doubles

Doubles other than those without a value are ordered by a rank: by their sign first, then by the
exponent and then by the mantissa. Rounding keeps the sign, and what is not above a double is not
rounded above it. So a double does not grow when something is taken off it.

Main statements: `le_iff_rank`, `sub_le`.
-/

namespace Persona.Number

open Float.Model Float.Model.UnpackedFloat

variable {m m₁ m₂ : Nat} {e e₁ e₂ : Int} {s : Sign}

/-! ## Ranks -/

/-- What orders the unpacked doubles. -/
def rank : UnpackedFloat → Option (ℤ ×ₗ ℤ ×ₗ ℤ)
  | .notANumber => none
  | .infinity .negative => some (toLex (-2, toLex (0, 0)))
  | .finite .negative m e _ => some (toLex (-1, toLex (-e, -m)))
  | .zero _ => some (toLex (0, toLex (0, 0)))
  | .finite .positive m e _ => some (toLex (1, toLex (e, m)))
  | .infinity .positive => some (toLex (2, toLex (0, 0)))

theorem compare_natCast (m₁ m₂ : Nat) : compare (m₁ : Int) m₂ = compare m₁ m₂ := by
  rw [← cmp_eq_compare, ← cmp_eq_compare, Nat.strictMono_cast.cmp_map_eq]

theorem compare_neg (z₁ z₂ : Int) : compare (-z₁) (-z₂) = (compare z₁ z₂).swap := by
  have hneg : StrictAnti fun z : Int => -z := fun _ _ h => Int.neg_lt_neg h
  rw [Int.compare_swap, ← cmp_eq_compare, ← cmp_eq_compare, hneg.cmp_map_eq]

theorem compare_eq_rank (u v : UnpackedFloat) :
    u.compare v = Option.map₂ compare (rank u) (rank v) := by
  cases u with
  | notANumber => rfl
  | infinity s =>
      cases v with
      | notANumber => cases s <;> rfl
      | infinity s' => cases s <;> cases s' <;> rfl
      | zero => cases s <;> rfl
      | finite s' => cases s <;> cases s' <;> rfl
  | zero =>
      cases v with
      | notANumber => rfl
      | infinity s' => cases s' <;> rfl
      | zero => rfl
      | finite s' => cases s' <;> rfl
  | finite s m₁ e₁ =>
      cases v with
      | notANumber => cases s <;> rfl
      | infinity s' => cases s <;> cases s' <;> rfl
      | zero => cases s <;> rfl
      | finite s' m₂ e₂ =>
          cases s <;> cases s'
          case negative.positive => rfl
          case positive.negative => rfl
          case positive.positive =>
              change _ = some ((compare e₁ e₂).then (compare (m₁ : Int) m₂))
              rw [compare_natCast]
              rfl
          case negative.negative =>
              change _ = some ((compare (-e₁) (-e₂)).then (compare (-(m₁ : Int)) (-m₂)))
              rw [compare_neg, compare_neg, compare_natCast, ← Ordering.swap_then]
              rfl

variable {x y z : Float}

theorem lt_iff_rank :
    x < y ↔ ∃ a ∈ rank x.toModel.unpack, ∃ b ∈ rank y.toModel.unpack, a < b := by
  rw [lt_iff_compare, compare_eq_rank]
  cases rank x.toModel.unpack <;> cases rank y.toModel.unpack <;> simp [compare_lt_iff_lt]

theorem le_iff_rank :
    x ≤ y ↔ ∃ a ∈ rank x.toModel.unpack, ∃ b ∈ rank y.toModel.unpack, a ≤ b := by
  rw [le_iff_compare, compare_eq_rank]
  cases rank x.toModel.unpack <;> cases rank y.toModel.unpack <;>
    simp [Ordering.isLE_iff_ne_gt, compare_gt_iff_gt]

protected theorem le_of_lt (h : x < y) : x ≤ y := by
  obtain ⟨a, ha, b, hb, hlt⟩ := lt_iff_rank.mp h
  exact le_iff_rank.mpr ⟨a, ha, b, hb, hlt.le⟩

protected theorem le_trans (h : x ≤ y) (h' : y ≤ z) : x ≤ z := by
  obtain ⟨a, ha, b, hb, hle⟩ := le_iff_rank.mp h
  obtain ⟨b', hb', c, hc, hle'⟩ := le_iff_rank.mp h'
  obtain rfl := Option.mem_unique hb hb'
  exact le_iff_rank.mpr ⟨a, ha, c, hc, hle.trans hle'⟩

protected theorem not_lt_of_le (h : x ≤ y) : ¬ y < x := by
  intro hlt
  obtain ⟨a, ha, b, hb, hle⟩ := le_iff_rank.mp h
  obtain ⟨b', hb', a', ha', hlt⟩ := lt_iff_rank.mp hlt
  obtain rfl := Option.mem_unique ha ha'
  obtain rfl := Option.mem_unique hb hb'
  exact absurd hlt hle.not_gt

/-! ## Signs -/

/-- An unpacked double with a sign. -/
def Signed (s : Sign) : UnpackedFloat → Prop
  | .notANumber => False
  | .infinity s' => s' = s
  | .zero s' => s' = s
  | .finite s' .. => s' = s

namespace Signed

theorem unpack_subnormal (s : Sign) (mantissa : BitVec 52) :
    Signed s (unpack Format.binary64 (packComponents Format.binary64 s 0#11 mantissa)) := by
  unfold UnpackedFloat.unpack
  simp only [unpackExponent_packComponents, unpackMantissa_packComponents,
    unpackSign_packComponents, Sign.ofBitVec_toBitVec]
  rw [if_neg (by decide), if_pos trivial]
  split <;> rfl

theorem unpack_pack {u : UnpackedFloat} (h : Signed s u) :
    Signed s (unpack Format.binary64 (pack Format.binary64 u)) := by
  cases u with
  | notANumber => exact h.elim
  | infinity s' =>
      obtain rfl : s' = s := h
      cases s' <;> rfl
  | zero s' =>
      obtain rfl : s' = s := h
      cases s' <;> rfl
  | finite s' m e hm =>
      obtain rfl : s' = s := h
      rcases unpack_pack_cases s' hm e with ⟨-, heq⟩ | heq | ⟨mantissa, heq⟩
      · rw [heq]
        rfl
      · rw [heq]
        rfl
      · rw [heq]
        exact unpack_subnormal s' mantissa

theorem roundWithAccuracy (s : Sign) (m : Nat) (e : Int) (a : Accuracy) :
    Signed s (roundWithAccuracy Format.binary64 s m e a) := by
  unfold UnpackedFloat.roundWithAccuracy
  dsimp only
  split <;> rfl

/-- A positive factor keeps the sign. -/
theorem mul {hm : 0 < m} (hx : x.toModel.unpack = .finite .positive m e hm)
    (hy : Signed .positive y.toModel.unpack) : Signed .positive (x * y).toModel.unpack := by
  change Signed .positive (unpack Format.binary64 (pack Format.binary64
    (UnpackedFloat.mul Format.binary64 x.toModel.unpack y.toModel.unpack)))
  refine unpack_pack ?_
  rw [hx]
  match y.toModel.unpack, hy with
  | .infinity .positive, _ => rfl
  | .zero .positive, _ => rfl
  | .finite .positive .., _ => exact roundWithAccuracy ..

/-- A positive divisor keeps the sign. -/
theorem div {hm : 0 < m} (hx : Signed .positive x.toModel.unpack)
    (hy : y.toModel.unpack = .finite .positive m e hm) :
    Signed .positive (x / y).toModel.unpack := by
  change Signed .positive (unpack Format.binary64 (pack Format.binary64
    (UnpackedFloat.div Format.binary64 x.toModel.unpack y.toModel.unpack)))
  refine unpack_pack ?_
  rw [hy]
  match x.toModel.unpack, hx with
  | .infinity .positive, _ => rfl
  | .zero .positive, _ => rfl
  | .finite .positive .., _ => exact roundWithAccuracy ..

theorem of_parts (h : parts x = .finite false m e) : Signed .positive x.toModel.unpack := by
  obtain ⟨s, hs, hx⟩ := unpack_of_parts h
  cases s with
  | negative => cases hs
  | positive =>
      rcases hx with ⟨-, hx⟩ | ⟨hm, hx⟩
      · rw [hx]; rfl
      · rw [hx]; rfl

theorem ofInt {n : Nat} (h : n < overflow) : Signed .positive (Number.ofInt n).toModel.unpack := by
  have hsign : decide ((n : Int) < 0) = false := decide_eq_false (by omega)
  obtain ⟨m, e, hparts⟩ := exists_parts_ofRatio one_ne_zero (by rwa [Nat.mul_one]) false
  refine of_parts (m := m) (e := e) ?_
  rw [Number.ofInt, hsign, Int.natAbs_natCast]
  exact hparts

end Signed

/-! ## Rounding -/

/-- The mantissa and the exponent of a finite double. -/
structure IsDouble (m : Nat) (e : Int) : Prop where
  lt : m < 2 ^ 53
  least : -1074 ≤ e
  most : e ≤ 971
  full : e = -1074 ∨ 2 ^ 52 ≤ m

theorem IsDouble.of_unpack {hm : 0 < m} (h : x.toModel.unpack = .finite .positive m e hm) :
    IsDouble m e := by
  have hparts : parts x = .finite false m e := by
    rw [parts_eq_partsOf, h]
    rfl
  obtain ⟨hlt, hleast, hmost, hfull⟩ := parts_bounds hparts
  exact ⟨hlt, hleast, hmost, hfull⟩

/-- What is packed is not above the positive double with this mantissa and this exponent. -/
def NotAbove (m₁ : Nat) (e₁ : Int) (u : UnpackedFloat) : Prop :=
  ∃ a ∈ rank (unpack Format.binary64 (pack Format.binary64 u)),
    a ≤ toLex (1, toLex (e₁, (m₁ : ℤ)))

/-- What is zero or negative has a rank below all that is positive. -/
theorem rank_lower_le {level : ℤ} (h : level < 1) (b c : ℤ ×ₗ ℤ) :
    toLex (level, b) ≤ toLex (1, c) := (Prod.Lex.toLex_lt_toLex.mpr (.inl h)).le

namespace NotAbove

theorem of_negative {u : UnpackedFloat} (h : Signed .negative u) : NotAbove m₁ e₁ u := by
  unfold NotAbove
  match unpack Format.binary64 (pack Format.binary64 u), h.unpack_pack with
  | .infinity .negative, _ => exact ⟨_, rfl, rank_lower_le (by decide) _ _⟩
  | .zero .negative, _ => exact ⟨_, rfl, rank_lower_le (by decide) _ _⟩
  | .finite .negative .., _ => exact ⟨_, rfl, rank_lower_le (by decide) _ _⟩

theorem zero (s : Sign) : NotAbove m₁ e₁ (.zero s) := by
  cases s <;> exact ⟨_, rfl, rank_lower_le one_pos _ _⟩

theorem finite {hm : 0 < m} (hd : IsDouble m e) (h : e < e₁ ∨ e = e₁ ∧ m ≤ m₁) :
    NotAbove m₁ e₁ (.finite .positive m e hm) := by
  rw [NotAbove, unpack_pack_finite hd.lt hd.full hd.least hd.most]
  refine ⟨_, rfl, Prod.Lex.toLex_le_toLex.mpr (.inr ⟨rfl, Prod.Lex.toLex_le_toLex.mpr ?_⟩)⟩
  exact h.imp_right fun h => ⟨h.1, Int.ofNat_le.mpr h.2⟩

end NotAbove

namespace IsDouble

variable (h : IsDouble m₁ e₁)

include h

/-- What is not above a double is rounded below its exponent, or there and not above it. -/
theorem roundedAt_le (he : e ≤ max (m.log2 + e - 52) (-1074)) (hle : e ≤ e₁)
    (hm : m ≤ m₁ * 2 ^ (e₁ - e).toNat) :
    (roundedAt m e .exact).2 < e₁ ∨
      (roundedAt m e .exact).2 = e₁ ∧ (roundedAt m e .exact).1 ≤ m₁ := by
  have hat := exponent_roundedAt (a := .exact) he
  have hleast := h.least
  have hlog : m.log2 ≤ 52 + (e₁ - e).toNat := by
    rcases Nat.eq_zero_or_pos m with rfl | hpos
    · rw [Nat.log2_zero]
      omega
    · have hlt : m < 2 ^ (53 + (e₁ - e).toNat) := by
        rw [pow_add]
        exact hm.trans_lt (Nat.mul_lt_mul_of_pos_right h.lt (Nat.two_pow_pos _))
      have := (Nat.log2_lt hpos.ne').mpr hlt
      omega
  obtain hless | heq : (roundedAt m e .exact).2 < e₁ ∨ (roundedAt m e .exact).2 = e₁ := by omega
  · exact .inl hless
  · refine .inr ⟨heq, mantissa_roundedAt_le (k := (e₁ - e).toNat) (by omega) ?_⟩
    have hpos := Nat.two_pow_pos (e₁ - e).toNat
    change 4 * m < _
    rw [Nat.add_mul, Nat.mul_assoc]
    omega

theorem notAbove_roundWithAccuracy (he : e ≤ max (m.log2 + e - 52) (-1074)) (hle : e ≤ e₁)
    (hm : m ≤ m₁ * 2 ^ (e₁ - e).toNat) :
    NotAbove m₁ e₁ (roundWithAccuracy Format.binary64 .positive m e .exact) := by
  have hleast := least_le_roundedAt (a := .exact) he
  have hbelow := h.roundedAt_le he hle hm
  obtain ⟨-, hfull⟩ := mantissa_roundedAt_bounds (a := .exact) he
  obtain ⟨hlt₁, -, hmost₁, hfull₁⟩ := h
  rcases roundWithAccuracy_cases (a := .exact) .positive he with ⟨-, hround⟩ |
    ⟨hpos, hlt, hround⟩ | ⟨hcarry, hround⟩
  · rw [hround]
    exact .zero .positive
  · rw [hround]
    exact .finite ⟨hlt, hleast, by omega, hfull⟩ hbelow
  · -- there is a carry below the exponent of the double only, and its mantissa is then full
    rw [hround]
    exact .finite ⟨by decide, by omega, by omega, .inr le_rfl⟩ (by omega)

theorem notAbove_round (hpos : 0 < m) (he : e ≤ e₁) (hm : m ≤ m₁ * 2 ^ (e₁ - e).toNat) :
    NotAbove m₁ e₁ (round Format.binary64 .positive m e) := by
  have htarget := targetExponent_eq m e
  unfold UnpackedFloat.round decreaseExponent
  dsimp only
  generalize Format.binary64.targetExponent (totalExponent m e) = target at *
  obtain ⟨k, hk⟩ : ∃ k, (e - target).toNat = k := ⟨_, rfl⟩
  rw [hk, Nat.shiftLeft_eq]
  refine h.notAbove_roundWithAccuracy ?_ (by omega) ?_
  · have hlog : m.log2 + k ≤ (m * 2 ^ k).log2 := by
      rw [Nat.le_log2 (Nat.mul_pos hpos (Nat.two_pow_pos k)).ne', pow_add]
      exact Nat.mul_le_mul_right _ (Nat.log2_self_le hpos.ne')
    omega
  · rw [show (e₁ - (e - (k : Int))).toNat = (e₁ - e).toNat + k by omega, pow_add,
      ← Nat.mul_assoc]
    exact Nat.mul_le_mul_right _ hm

theorem notAbove_normalize {n : Int} (he : e ≤ e₁)
    (hn : n ≤ (m₁ * 2 ^ (e₁ - e).toNat : Nat)) :
    NotAbove m₁ e₁ (normalize Format.binary64 n e .positive) := by
  unfold UnpackedFloat.normalize
  split
  · exact .of_negative (.roundWithAccuracy ..)
  · exact .zero .positive
  · next hpos =>
    have hpos : 0 < n := Int.compare_eq_gt.mp hpos
    exact h.notAbove_round (by omega) he (Int.toNat_le.mpr hn)

/-- A difference is calculated at the lesser of the two exponents, and exactly. -/
theorem notAbove_sub (hm : 0 < m₁) (hm₂ : 0 < m₂) :
    NotAbove m₁ e₁ (sub Format.binary64 (.finite .positive m₁ e₁ hm)
      (.finite .positive m₂ e₂ hm₂)) := by
  refine h.notAbove_normalize (min_le_left e₁ e₂) ?_
  have hshift : (decreaseExponent m₁ e₁ (min e₁ e₂)).1 = m₁ * 2 ^ (e₁ - min e₁ e₂).toNat :=
    Nat.shiftLeft_eq ..
  rw [← hshift]
  exact Int.sub_le_self _ (Int.natCast_nonneg _)

end IsDouble

/-- What is taken off a positive double does not raise it. -/
theorem sub_le {d : Float} {hm : 0 < m} (hx : x.toModel.unpack = .finite .positive m e hm)
    (hd : Signed .positive d.toModel.unpack) : x - d ≤ x := by
  have h := IsDouble.of_unpack hx
  have hbelow : NotAbove m e (sub Format.binary64 x.toModel.unpack d.toModel.unpack) := by
    rw [hx]
    match d.toModel.unpack, hd with
    | .infinity .positive, _ => exact .of_negative (u := .infinity .negative) rfl
    | .zero .positive, _ => exact .finite h (.inr ⟨rfl, le_rfl⟩)
    | .finite .positive _ _ hm', _ => exact h.notAbove_sub hm hm'
  obtain ⟨a, ha, hle⟩ := hbelow
  exact le_iff_rank.mpr ⟨a, ha, _, by rw [hx]; rfl, hle⟩

end Persona.Number
