import Mathlib

/-!
# Bounds on doubles

A double below one is bounded by a whole number of units of `2 ^ -53`, the last place of the doubles
from one half to one. Sums and products are rounded, and below one that adds at most a unit. So
bounds can be calculated with in whole numbers.

Main statements: `Within.add`, `Within.mul`, `Within.of_lt_one`, `Within.not_lt`.
-/

namespace Persona.Number

open Float.Model Float.Model.UnpackedFloat

/-! ## Mantissas and exponents -/

/-- The value `m · 2 ^ e` is at most `n` units, and the exponent is not above that of a unit. -/
def Fits (n m : Nat) (e : Int) : Prop := e ≤ -53 ∧ m ≤ n * 2 ^ (-53 - e).toNat

instance (n m : Nat) (e : Int) : Decidable (Fits n m e) := inferInstanceAs (Decidable (_ ∧ _))

namespace Fits

variable {n k m : Nat} {e : Int}

theorem iff_exists : Fits n m e ↔ ∃ j : Nat, e = -53 - j ∧ m ≤ n * 2 ^ j := by
  constructor
  · rintro ⟨he, hm⟩
    exact ⟨(-53 - e).toNat, by omega, hm⟩
  · rintro ⟨j, rfl, hm⟩
    have hj : (-53 - (-53 - (j : Int))).toNat = j := by omega
    exact ⟨by omega, hj.symm ▸ hm⟩

theorem mono (h : Fits n m e) (hn : n ≤ k) : Fits k m e :=
  ⟨h.1, h.2.trans (Nat.mul_le_mul_right _ hn)⟩

/-- One more in the last place is at most one more unit. -/
theorem succ {r : Nat} (h : Fits n m e) (hr : r ≤ m + 1) : Fits (n + 1) r e := by
  refine ⟨h.1, hr.trans ?_⟩
  have hone : 1 ≤ 2 ^ (-53 - e).toNat := Nat.one_le_two_pow
  rw [Nat.add_mul, Nat.one_mul]
  exact Nat.add_le_add h.2 hone

theorem shiftLeft (h : Fits n m e) (j : Nat) : Fits n (m <<< j) (e - j) := by
  obtain ⟨i, rfl, hm⟩ := iff_exists.mp h
  refine iff_exists.mpr ⟨i + j, by omega, ?_⟩
  rw [Nat.shiftLeft_eq, Nat.pow_add, ← Nat.mul_assoc]
  exact Nat.mul_le_mul_right _ hm

theorem shiftRight (h : Fits n m e) {j : Nat} (hj : e + j ≤ -53) : Fits n (m / 2 ^ j) (e + j) := by
  obtain ⟨i, rfl, hm⟩ := iff_exists.mp h
  refine iff_exists.mpr ⟨i - j, by omega, ?_⟩
  have hi : n * 2 ^ i = n * 2 ^ (i - j) * 2 ^ j := by
    rw [Nat.mul_assoc, ← Nat.pow_add]
    congr 2
    omega
  exact Nat.div_le_of_le_mul (by rw [Nat.mul_comm, ← hi]; exact hm)

/-- A mantissa of 52 digits fits easily far below. -/
theorem of_lt (hm : m < 2 ^ 52) (he : e ≤ -105) (hn : 0 < n) : Fits n m e := by
  refine ⟨by omega, ?_⟩
  calc m ≤ 2 ^ 52 := hm.le
    _ ≤ 2 ^ (-53 - e).toNat := Nat.pow_le_pow_right Nat.two_pos (by omega)
    _ ≤ n * 2 ^ (-53 - e).toNat := Nat.le_mul_of_pos_left _ hn

/-- A value below one is written with at most the exponent of a unit. -/
theorem targetExponent_le (h : Fits n m e) (hn : n < 2 ^ 53) :
    Format.binary64.targetExponent (totalExponent m e) ≤ -53 := by
  obtain ⟨j, rfl, hm⟩ := iff_exists.mp h
  have hlog : m.log2 < 53 + j := by
    by_cases hzero : m = 0
    · rw [hzero, Nat.log2_zero]
      omega
    · rw [Nat.log2_lt hzero, Nat.pow_add]
      exact hm.trans_lt (Nat.mul_lt_mul_of_pos_right hn (Nat.two_pow_pos j))
  change max ((m.log2 : Int) + 1 + (-53 - j) - 53) (-1074) ≤ -53
  omega

end Fits

/-! ## Rounding -/

theorem mantissa_shiftRight (em : ExtendedMantissa) (k : Nat) :
    (em >>> k).mantissa = em.mantissa / 2 ^ k := by
  induction k with
  | zero => exact (Nat.div_one _).symm
  | succ k ih =>
      change (em >>> k).mantissa / 2 = _
      rw [ih, Nat.div_div_eq_div_mul, Nat.pow_succ]

theorem roundedMantissa_le (em : ExtendedMantissa) : em.roundedMantissa ≤ em.mantissa + 1 := by
  obtain ⟨m, roundBit, stickyBit⟩ := em
  change Accuracy.roundToNearestEven m _ ≤ m + 1
  have heven : m + m % 2 ≤ m + 1 := by omega
  cases roundBit <;> cases stickyBit <;>
    first
    | exact heven
    | exact Nat.le_succ m
    | exact Nat.le_refl _

theorem mantissa_shiftToTargetExponent (m : Nat) (e : Int) (a : Accuracy) :
    (shiftToTargetExponent Format.binary64 m e a).1.mantissa =
      m / 2 ^ (Format.binary64.targetExponent (totalExponent m e) - e).toNat := by
  refine (mantissa_shiftRight _ _).trans ?_
  cases a with
  | exact => rfl
  | inexact o => cases o <;> rfl

variable {n k m : Nat} {e : Int}

/-- Taking the place that a value below one is written with only drops digits. -/
theorem Fits.shiftToTargetExponent (h : Fits n m e) (hn : n < 2 ^ 53) (a : Accuracy) :
    Fits n (shiftToTargetExponent Format.binary64 m e a).1.mantissa
      (shiftToTargetExponent Format.binary64 m e a).2 := by
  have htarget := h.targetExponent_le hn
  have he := h.1
  rw [mantissa_shiftToTargetExponent]
  exact h.shiftRight (by omega)

/-! ## Bounded doubles -/

/-- An unpacked double is at most `n` units. What is not a number is not bounded. -/
def Bounded (n : Nat) : UnpackedFloat → Prop
  | .notANumber => False
  | .infinity .positive => False
  | .infinity .negative => True
  | .zero _ => True
  | .finite .negative .. => True
  | .finite .positive m e _ => Fits n m e

instance (n : Nat) : (u : UnpackedFloat) → Decidable (Bounded n u)
  | .notANumber => isFalse id
  | .infinity .positive => isFalse id
  | .infinity .negative => isTrue trivial
  | .zero _ => isTrue trivial
  | .finite .negative .. => isTrue trivial
  | .finite .positive m e _ => inferInstanceAs (Decidable (Fits n m e))

namespace Bounded

theorem mono {u : UnpackedFloat} (h : Bounded n u) (hn : n ≤ k) : Bounded k u := by
  match u, h with
  | .infinity .negative, _ => exact trivial
  | .zero _, _ => exact trivial
  | .finite .negative .., _ => exact trivial
  | .finite .positive m e _, h => exact Fits.mono h hn

theorem roundWithAccuracy (h : Fits n m e) (hn : n + 1 < 2 ^ 53) (s : Sign) (a : Accuracy) :
    Bounded (n + 1) (roundWithAccuracy Format.binary64 s m e a) := by
  have hfirst := h.shiftToTargetExponent (by omega) a
  have hsecond := (hfirst.succ (roundedMantissa_le _)).shiftToTargetExponent hn .exact
  unfold UnpackedFloat.roundWithAccuracy
  dsimp only
  split
  · exact trivial
  · cases s with
    | negative => exact trivial
    | positive => exact hsecond

theorem round (h : Fits n m e) (hn : n + 1 < 2 ^ 53) (s : Sign) :
    Bounded (n + 1) (round Format.binary64 s m e) :=
  roundWithAccuracy (h.shiftLeft _) hn s .exact

/-- What is negative has no bound to keep. -/
theorem roundWithAccuracy_negative (n m : Nat) (e : Int) (a : Accuracy) :
    Bounded n (UnpackedFloat.roundWithAccuracy Format.binary64 .negative m e a) := by
  unfold UnpackedFloat.roundWithAccuracy
  dsimp only
  split <;> exact trivial

theorem normalize {z : Int} (h : 0 < z → Fits n z.toNat e) (hn : n + 1 < 2 ^ 53)
    (zeroSign : Sign) : Bounded (n + 1) (normalize Format.binary64 z e zeroSign) := by
  unfold UnpackedFloat.normalize
  split
  · exact roundWithAccuracy_negative _ _ _ _
  · exact trivial
  · next hz => exact round (h (Int.compare_eq_gt.mp hz)) hn .positive

/-- A part of a sum, brought to an exponent that is not above its own. -/
theorem apply_decreaseExponent_le {s : Sign} {hm : 0 < m} (h : Bounded n (.finite s m e hm))
    {t : Int} (ht : t ≤ e) :
    s.apply (decreaseExponent m e t).1 ≤ (n * 2 ^ (-53 - t).toNat : Nat) := by
  cases s with
  | negative =>
      change -((decreaseExponent m e t).1 : Int) ≤ _
      omega
  | positive =>
      have hshift := (Fits.shiftLeft h (e - t).toNat).2
      have hexp : e - (e - t).toNat = t := by omega
      rw [hexp] at hshift
      exact Int.ofNat_le.mpr hshift

theorem add_finite {s s' : Sign} {m' : Nat} {e' : Int} {hm : 0 < m} {hm' : 0 < m'}
    (h : Bounded n (.finite s m e hm)) (h' : Bounded k (.finite s' m' e' hm'))
    (hn : n + k + 1 < 2 ^ 53) :
    Bounded (n + k + 1)
      (UnpackedFloat.add Format.binary64 (.finite s m e hm) (.finite s' m' e' hm')) := by
  have hpart := apply_decreaseExponent_le h (Int.min_le_left e e')
  have hpart' := apply_decreaseExponent_le h' (Int.min_le_right e e')
  refine normalize (fun hpos => ⟨?_, ?_⟩) hn .positive
  · -- A part of a positive sum is positive, and so its exponent is bounded.
    match s, s', h, h' with
    | .positive, _, h, _ => exact (Int.min_le_left e e').trans h.1
    | .negative, .positive, _, h' => exact (Int.min_le_right e e').trans h'.1
    | .negative, .negative, _, _ =>
        have hneg (a b : Nat) : ¬ 0 < -(a : Int) + -(b : Int) := by omega
        exact absurd hpos (hneg _ _)
  · rw [Nat.add_mul]
    exact Int.toNat_le.mpr (Int.add_le_add hpart hpart')

theorem add {u v : UnpackedFloat} (h : Bounded n u) (h' : Bounded k v) (hn : n + k + 1 < 2 ^ 53) :
    Bounded (n + k + 1) (add Format.binary64 u v) := by
  match u, v, h, h' with
  | .infinity .negative, .infinity .negative, _, _ => exact trivial
  | .infinity .negative, .zero _, _, _ => exact trivial
  | .infinity .negative, .finite .., _, _ => exact trivial
  | .zero _, .infinity .negative, _, _ => exact trivial
  | .finite .., .infinity .negative, _, _ => exact trivial
  | .zero s, .zero s', _, _ => cases s <;> cases s' <;> exact trivial
  | .zero _, .finite .., _, h' => exact h'.mono (by omega)
  | .finite .., .zero _, h, _ => exact h.mono (by omega)
  | .finite .., .finite .., h, h' => exact add_finite h h' hn

/-- A product with a positive factor. -/
theorem mul {u : UnpackedFloat} {m' l : Nat} {e' : Int} {hm' : 0 < m'} (h : Bounded n u)
    (h' : Fits k m' e') (hl : n * k ≤ l * 2 ^ 53) (hlt : l + 1 < 2 ^ 53) :
    Bounded (l + 1) (mul Format.binary64 u (.finite .positive m' e' hm')) := by
  match u, h with
  | .infinity .negative, _ => exact trivial
  | .zero _, _ => exact trivial
  | .finite .negative m e hm, _ => exact roundWithAccuracy_negative _ _ _ _
  | .finite .positive m e hm, h =>
      obtain ⟨i, rfl, hm⟩ := Fits.iff_exists.mp h
      obtain ⟨j, rfl, hm'⟩ := Fits.iff_exists.mp h'
      refine roundWithAccuracy (Fits.iff_exists.mpr ⟨53 + i + j, by omega, ?_⟩) hlt _ _
      calc m * m' ≤ n * 2 ^ i * (k * 2 ^ j) := Nat.mul_le_mul hm hm'
        _ = n * k * (2 ^ i * 2 ^ j) := by ring
        _ ≤ l * 2 ^ 53 * (2 ^ i * 2 ^ j) := Nat.mul_le_mul_right _ hl
        _ = l * 2 ^ (53 + i + j) := by ring

end Bounded

/-! ## Packing -/

theorem toNat_implicit (mantissa : BitVec 52) :
    (1#1 ++ mantissa).toNat = 2 ^ 52 + mantissa.toNat := by
  rw [BitVec.toNat_append, ← Nat.shiftLeft_add_eq_or_of_lt mantissa.isLt]
  rfl

/-- What has no exponent is a zero or far below a unit. -/
theorem Bounded.unpack_subnormal (hn : 0 < n) (s : Sign) (mantissa : BitVec 52) :
    Bounded n (unpack Format.binary64 (packComponents Format.binary64 s 0#11 mantissa)) := by
  unfold UnpackedFloat.unpack
  simp only [unpackExponent_packComponents, unpackMantissa_packComponents,
    unpackSign_packComponents, Sign.ofBitVec_toBitVec]
  rw [if_neg (by decide), if_pos trivial]
  split
  · exact trivial
  · cases s with
    | negative => exact trivial
    | positive => exact .of_lt mantissa.isLt (by decide) hn

theorem unpack_normal (s : Sign) {exponent : BitVec 11} (mantissa : BitVec 52)
    (hlast : exponent ≠ -1#11) (hfirst : exponent ≠ 0#11) :
    unpack Format.binary64 (packComponents Format.binary64 s exponent mantissa) =
      .finite s (2 ^ 52 + mantissa.toNat) (exponent.toNat - 1075) (by omega) := by
  unfold UnpackedFloat.unpack
  simp only [unpackExponent_packComponents, unpackMantissa_packComponents,
    unpackSign_packComponents, Sign.ofBitVec_toBitVec, toNat_implicit]
  rw [if_neg hlast, if_neg hfirst]
  rfl

/-- What is packed is too large, or it has all its digits and stays the same, or it is stored
without an exponent. -/
theorem unpack_pack_cases (s : Sign) (hm : 0 < m) (e : Int) :
    971 < e ∧ unpack Format.binary64 (pack Format.binary64 (.finite s m e hm)) = .infinity s ∨
    unpack Format.binary64 (pack Format.binary64 (.finite s m e hm)) = .finite s m e hm ∨
    ∃ mantissa : BitVec 52, pack Format.binary64 (.finite s m e hm) =
      packComponents Format.binary64 s 0#11 mantissa := by
  obtain ⟨biased, hbiased⟩ : ∃ b, (e + 1023 + 52).toNat = b := ⟨_, rfl⟩
  have hpack : pack Format.binary64 (.finite s m e hm) =
      if 2048 ≤ (e + 1023 + 52).toNat + 1 then packedInfinity Format.binary64 s else
      if m.log2 + 1 = 53 then packComponents Format.binary64 s
        (BitVec.ofNat 11 (e + 1023 + 52).toNat) (BitVec.ofNat 52 m)
      else packComponents Format.binary64 s 0#11 (BitVec.ofNat 52 m) := rfl
  rw [hpack, hbiased]
  clear hpack
  split
  · exact .inl ⟨by omega, by cases s <;> rfl⟩
  · next hlt =>
    have hexponent : (BitVec.ofNat 11 biased).toNat = biased := Nat.mod_eq_of_lt (by omega)
    refine .inr ?_
    split
    · next hlog =>
      have hne : m ≠ 0 := hm.ne.symm
      have hlow : 2 ^ 52 ≤ m := (Nat.le_log2 hne).mp (by omega)
      have hhigh : m < 2 ^ 53 := (Nat.log2_lt hne).mp (by omega)
      have hmantissa : 2 ^ 52 + (BitVec.ofNat 52 m).toNat = m := by
        rw [BitVec.toNat_ofNat]
        omega
      by_cases hfirst : BitVec.ofNat 11 biased = 0#11
      · rw [hfirst]
        exact .inr ⟨_, rfl⟩
      · have hlast : BitVec.ofNat 11 biased ≠ -1#11 := by
          intro heq
          have hnat := congrArg BitVec.toNat heq
          rw [hexponent] at hnat
          exact absurd hnat (by change biased ≠ 2047; omega)
        have hpos : biased ≠ 0 := fun hzero => hfirst (by rw [hzero])
        have he : (biased : Int) - 1075 = e := by omega
        left
        rw [unpack_normal s _ hlast hfirst]
        simp only [hexponent, hmantissa, he]
    · exact .inr ⟨_, rfl⟩

theorem Bounded.unpack_pack_finite {s : Sign} {hm : 0 < m} (hn : 0 < n)
    (h : Bounded n (.finite s m e hm)) :
    Bounded n (unpack Format.binary64 (pack Format.binary64 (.finite s m e hm))) := by
  rcases unpack_pack_cases s hm e with ⟨hlarge, heq⟩ | heq | ⟨mantissa, heq⟩
  · -- Only what is negative can be too large.
    rw [heq]
    clear heq
    cases s with
    | negative => exact trivial
    | positive =>
        have he : e ≤ -53 := h.1
        omega
  · rw [heq]
    exact h
  · rw [heq]
    exact .unpack_subnormal hn s mantissa

theorem Bounded.unpack_pack {u : UnpackedFloat} (hn : 0 < n) (h : Bounded n u) :
    Bounded n (unpack Format.binary64 (pack Format.binary64 u)) := by
  match u, h with
  | .infinity .negative, _ => exact trivial
  | .zero s, _ => cases s <;> exact trivial
  | .finite .., h => exact h.unpack_pack_finite hn

/-! ## Doubles -/

/-- A double is at most `n` units. What is not a number is not. -/
def Within (n : Nat) (x : Float) : Prop := Bounded n x.toModel.unpack

instance (n : Nat) (x : Float) : Decidable (Within n x) :=
  inferInstanceAs (Decidable (Bounded n x.toModel.unpack))

theorem lt_iff_compare {x y : Float} :
    x < y ↔ x.toModel.unpack.compare y.toModel.unpack = some .lt := by
  change decide ((x.toModel.unpack.compare y.toModel.unpack == some .lt) = true) = true ↔ _
  rw [decide_eq_true_iff, beq_iff_eq]

theorem compare_finite {m' : Nat} {e' : Int} {hm : 0 < m} {hm' : 0 < m'} :
    (finite .positive m e hm).compare (.finite .positive m' e' hm') = some .lt ↔
      e < e' ∨ e = e' ∧ m < m' := by
  change some ((compare e e').then (compare m m')) = some .lt ↔ _
  rw [Option.some_inj, Ordering.then_eq_lt, Int.compare_eq_lt, Int.compare_eq_eq,
    Nat.compare_eq_lt]

/-- A mantissa has 53 digits at most, and no fewer except at the least exponent. -/
theorem unpack_finite {v : Float.Model} {s : Sign} {hm : 0 < m} (h : v.unpack = .finite s m e hm) :
    m < 2 ^ 53 ∧ (e = -1074 ∨ 2 ^ 52 ≤ m) := by
  have hlt : (@unpackMantissa Format.binary64 v.toBits.toBitVec).toNat < 2 ^ 52 := BitVec.isLt _
  unfold Float.Model.unpack UnpackedFloat.unpack at h
  dsimp only at h
  split at h
  · split at h <;> cases h
  · split at h
    · next hzero =>
      split at h
      · cases h
      · cases h
        refine ⟨by omega, .inl ?_⟩
        rw [hzero]
        rfl
    · cases h
      rw [toNat_implicit]
      exact ⟨by omega, .inr (by omega)⟩

namespace Within

variable {x y : Float}

theorem add (hx : Within n x) (hy : Within k y) (hn : n + k + 1 < 2 ^ 53) :
    Within (n + k + 1) (x + y) :=
  (Bounded.add hx hy hn).unpack_pack (Nat.succ_pos _)

theorem mul {l : Nat} (hx : Within n x) (hy : Within k y) (hpos : 0.0 < y)
    (hl : n * k ≤ l * 2 ^ 53) (hlt : l + 1 < 2 ^ 53) : Within (l + 1) (x * y) := by
  have hzero : (0.0 : Float).toModel.unpack = .zero .positive := rfl
  rw [lt_iff_compare, hzero] at hpos
  refine Bounded.unpack_pack (Nat.succ_pos l) ?_
  unfold Within at hy
  match hv : y.toModel.unpack, hy, hpos with
  | .finite .positive m e hm, hy, _ => exact Bounded.mul hx hy hl hlt

/-- A double below one is below in its exponent. -/
theorem of_lt_one (hx : x < 1.0) : Within (2 ^ 53) x := by
  have hone : (1.0 : Float).toModel.unpack = .finite .positive (2 ^ 52) (-52) (by decide) := rfl
  rw [lt_iff_compare, hone] at hx
  unfold Within
  match hv : x.toModel.unpack, hx with
  | .infinity .negative, _ => exact trivial
  | .zero _, _ => exact trivial
  | .finite .negative .., _ => exact trivial
  | .finite .positive m e hm, hx =>
      obtain ⟨hlt, hnormal⟩ := unpack_finite hv
      rw [compare_finite] at hx
      refine ⟨by omega, hlt.le.trans ?_⟩
      exact Nat.le_mul_of_pos_right _ (Nat.two_pow_pos _)

theorem lt_one (hx : Within n x) : x < 1.0 := by
  have hone : (1.0 : Float).toModel.unpack = .finite .positive (2 ^ 52) (-52) (by decide) := rfl
  rw [lt_iff_compare, hone]
  unfold Within at hx
  match x.toModel.unpack, hx with
  | .infinity .negative, _ => rfl
  | .zero _, _ => rfl
  | .finite .negative .., _ => rfl
  | .finite .positive m e hm, hx =>
      have he := hx.1
      exact compare_finite.mpr (.inl (by omega))

/-- A bound that is itself a double is not exceeded. -/
theorem not_lt (hx : Within n x) (hm : 0 < m)
    (hy : y.toModel.unpack = .finite .positive m (-53) hm) (hn : n ≤ m) : ¬ y < x := by
  rw [lt_iff_compare, hy]
  unfold Within at hx
  match x.toModel.unpack, hx with
  | .infinity .negative, _ => exact nofun
  | .zero _, _ => exact nofun
  | .finite .negative .., _ => exact nofun
  | .finite .positive m' e' hm', hx =>
      rw [compare_finite]
      rintro (hlt | ⟨rfl, hlt⟩)
      · exact absurd hx.1 (by omega)
      · have hle : m' ≤ n * 1 := hx.2
        omega

end Within

end Persona.Number
