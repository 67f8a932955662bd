import Persona.Lineage.Settings
import Persona.Proofs.Json.Comparing
import Persona.Proofs.Number.Dividing

/-!
# Shares of children

The most children that a generation may have are divided by the number of the next generation, and
the share is cut to its whole part and kept within bounds. The share can be told exactly if the
divisor is not zero and nothing overflows; it is then a whole number of children.

Main statements: `exists_childCount`, `shareable_of_childCount`.
-/

namespace Persona.Lineage

/-- The most children allowed can be divided by `d`, and the quotient has a whole part. -/
def Shareable : Quantity → Int → Prop
  | .whole n, d => d ≠ 0 ∧ n.natAbs < Number.overflow * d.natAbs
  | .real x, d => d ≠ 0 ∧ d.natAbs < Number.overflow ∧ Number.IsFinite x

theorem toReal_whole {d : Int} (h : d.natAbs < Number.overflow) :
    Quantity.toReal (.whole d) = .ok (Number.ofInt d) := by
  have hfinite : Number.isInfinite (Number.ofInt d) = false := by
    rw [Bool.eq_false_iff, ne_eq, Number.ofInt, Number.isInfinite_ofRatio one_ne_zero, Nat.mul_one]
    exact not_le.mpr h
  rw [Quantity.toReal, hfinite, if_neg Bool.false_ne_true]

theorem divide_real (x : Float) {d : Int} {y : Float} (hy : Quantity.toReal (.whole d) = .ok y)
    (hzero : (y == 0.0) = false) : Quantity.divide (.real x) (.whole d) = .ok (x / y) := by
  change (Quantity.toReal (.whole d) >>= fun y =>
    if y == 0.0 then .error .realDivisionByZero else .ok (x / y)) = _
  rw [hy]
  change (if y == 0.0 then _ else _) = _
  rw [hzero, if_neg Bool.false_ne_true]

/-- The quotient of a number and a whole number, cut to its whole part. -/
theorem exists_share {q : Quantity} {d : Int} (h : Shareable q d) :
    ∃ x k, q.divide (.whole d) = .ok x ∧ Number.cut x = .ok k ∧
      ∀ y negative m e, q = .real y → Number.parts y = .finite negative m e →
        k ≤ Number.wholePart m e := by
  cases q with
  | whole n =>
      obtain ⟨hd, hless⟩ := h
      obtain ⟨m, e, hparts⟩ := Number.exists_parts_ofRatio (Int.natAbs_ne_zero.mpr hd) hless
        ((n < 0) != (d < 0))
      obtain ⟨k, hcut, -⟩ := Number.exists_cut hparts
      refine ⟨_, k, ?_, hcut, fun _ _ _ _ hq => by cases hq⟩
      rw [Quantity.divide, if_neg (by simpa using hd)]
      dsimp only
      rw [Number.isInfinite_of_parts hparts, if_neg Bool.false_ne_true]
  | real x =>
      obtain ⟨hd, hless, negative, m, e, hx⟩ := h
      obtain ⟨m', e', hy, hone⟩ := Number.exists_parts_ofInt hd hless
      obtain ⟨m'', e'', hquotient, hle⟩ := Number.exists_parts_div hx hy hone
      obtain ⟨k, hcut, hk⟩ := Number.exists_cut hquotient
      have hdigits := (Number.parts_bounds_of_one_le hy hone).1
      refine ⟨_, k, divide_real x (toReal_whole hless)
        (Number.beq_zero_of_parts hy (by omega)), hcut, ?_⟩
      rintro y negative m e ⟨⟩ hparts
      rw [hx] at hparts
      cases hparts
      omega

theorem shareable_of_cut {q : Quantity} {d k : Int} {x : Float}
    (hdivide : q.divide (.whole d) = .ok x) (hcut : Number.cut x = .ok k) : Shareable q d := by
  have hd : d ≠ 0 := by
    rintro rfl
    cases q <;> cases hdivide
  cases q with
  | whole n =>
      rw [Quantity.divide, if_neg (by simpa using hd)] at hdivide
      dsimp only at hdivide
      by_cases hinfinite : Number.isInfinite
          (Number.ofRatio ((n < 0) != (d < 0)) n.natAbs d.natAbs) = true
      · rw [if_pos hinfinite] at hdivide
        cases hdivide
      · rw [Number.isInfinite_ofRatio (Int.natAbs_ne_zero.mpr hd)] at hinfinite
        exact ⟨hd, not_le.mp hinfinite⟩
  | real y =>
      by_cases hless : d.natAbs < Number.overflow
      · obtain ⟨m, e, hparts, hone⟩ := Number.exists_parts_ofInt hd hless
        have hdigits := (Number.parts_bounds_of_one_le hparts hone).1
        have hquotient := divide_real y (toReal_whole hless)
          (Number.beq_zero_of_parts hparts (by omega))
        obtain rfl := Except.ok.inj (hquotient.symm.trans hdivide)
        exact ⟨hd, hless, Number.isFinite_of_div hparts (by omega) (Number.isFinite_of_cut hcut)⟩
      · have htoo : Quantity.toReal (.whole d) = .error .integerTooLarge := by
          rw [Quantity.toReal, if_pos]
          rw [Number.ofInt, Number.isInfinite_ofRatio one_ne_zero, Nat.mul_one]
          exact not_lt.mp hless
        change (Quantity.toReal (.whole d) >>= _) = _ at hdivide
        rw [htoo] at hdivide
        cases hdivide

/-! ## Shares against the most allowed -/

theorem compares_real (sign : Json.Sign) (x : Float) (n : Int) :
    Json.compares sign (.float x) (.int n) =
      .ok (((Number.compareWhole n x).map Ordering.swap).any sign.holds) :=
  Json.compares_of_quantity? (x := .real x) (y := .whole n) rfl rfl sign

/-- A double from zero on is not less than a number up to its whole part. -/
theorem compares_less_of_le {x : Float} {m : Nat} {e n : Int}
    (hx : Number.parts x = .finite false m e) (hn : n ≤ Number.wholePart m e) :
    Json.compares .less (.float x) (.int n) = .ok false := by
  have hscaled : n * Number.twoPow (-e).toNat ≤ m * Number.twoPow e.toNat := by
    unfold Number.wholePart at hn
    by_cases he : 0 ≤ e
    · rw [if_pos he, Nat.cast_mul] at hn
      rw [show (-e).toNat = 0 by omega, show (Number.twoPow 0 : Int) = 1 from rfl, mul_one]
      exact hn
    · rw [if_neg he] at hn
      rw [show e.toNat = 0 by omega, show (Number.twoPow 0 : Int) = 1 from rfl, mul_one]
      calc n * Number.twoPow (-e).toNat
          ≤ (m / Number.twoPow (-e).toNat : Nat) * Number.twoPow (-e).toNat := by gcongr
        _ ≤ m := mod_cast Nat.div_mul_le_self _ _
  have hcompare : Number.compareWhole n x =
      some (compare (n * Number.twoPow (-e).toNat) (m * Number.twoPow e.toNat : Int)) := by
    rw [Number.compareWhole, hx]
    rfl
  have hle : compare (n * Number.twoPow (-e).toNat) (m * Number.twoPow e.toNat : Int) ≠ .gt := by
    rw [ne_eq, compare_gt_iff_gt]
    omega
  rw [compares_real, hcompare]
  generalize compare (n * Number.twoPow (-e).toNat) (m * Number.twoPow e.toNat : Int) = order at hle
  cases order with
  | lt => rfl
  | eq => rfl
  | gt => exact absurd rfl hle

/-- A double that is not above zero is not above one. -/
theorem compares_greater_one {x : Float} {m : Nat} {e : Int}
    (hx : Number.parts x = .finite true m e) :
    Json.compares .greater (.float x) (.int 1) = .ok false := by
  have hcompare : Number.compareWhole 1 x =
      some (compare (1 * Number.twoPow (-e).toNat : Int) (-m * Number.twoPow e.toNat : Int)) := by
    rw [Number.compareWhole, hx]
    rfl
  have hgreater : compare (1 * Number.twoPow (-e).toNat : Int) (-m * Number.twoPow e.toNat : Int) =
      .gt := by
    have hpos : 0 < Number.twoPow (-e).toNat := Nat.two_pow_pos _
    have hnonneg : (0 : Int) ≤ m * Number.twoPow e.toNat := by positivity
    rw [compare_gt_iff_gt, neg_mul]
    omega
  rw [compares_real, hcompare, hgreater]
  rfl

/-! ## The number of children -/

/-- A share that is not above the most allowed makes a whole number of children. -/
theorem exists_whole?_bounded {share : Int} {most : Json} {q : Quantity}
    (hq : most.quantity? = some q) (hfinite : ∀ x, q = .real x → Number.IsFinite x)
    (hle : ∀ x negative m e, q = .real x → Number.parts x = .finite negative m e →
      share ≤ Number.wholePart m e) : ∃ n, (bounded share most).whole? = some n := by
  unfold bounded
  dsimp only
  cases most with
  | null => cases hq
  | str => cases hq
  | arr => cases hq
  | obj => cases hq
  | bool b => split_ifs <;> exact ⟨_, rfl⟩
  | int n => split_ifs <;> exact ⟨_, rfl⟩
  | float x =>
      cases hq
      obtain ⟨negative, m, e, hparts⟩ := hfinite x rfl
      cases negative with
      | false =>
          rw [compares_less_of_le hparts (hle x false m e rfl hparts)]
          simp only [Except.toOption, Option.getD_some, Bool.false_eq_true, if_false]
          split_ifs <;> exact ⟨_, rfl⟩
      | true =>
          have hgreater := compares_greater_one hparts
          split_ifs with hless hone hone
          · rw [hgreater] at hone
            cases hone
          all_goals exact ⟨_, rfl⟩

theorem childCount_eq {settings most : Json} (g : Int)
    (hmost : settings.fieldOr "max_children_per_generation" (.int 2) = .ok most) :
    childCount settings (.int g) = most.dividedBy (.int (g + 1)) >>= fun x =>
      Fault.wholePart x >>= fun share => .ok (bounded share most) := by
  rw [childCount, hmost]
  rfl

/-- A member has a whole number of children if the most allowed can be shared. -/
theorem exists_childCount {settings most : Json} {q : Quantity} {g : Int}
    (hmost : settings.fieldOr "max_children_per_generation" (.int 2) = .ok most)
    (hq : most.quantity? = some q) (h : Shareable q (g + 1)) :
    ∃ count n, childCount settings (.int g) = .ok count ∧ count.whole? = some n := by
  obtain ⟨x, share, hdivide, hcut, hle⟩ := exists_share h
  have hfinite : ∀ y, q = .real y → Number.IsFinite y := by
    rintro y rfl
    exact h.2.2
  obtain ⟨n, hn⟩ := exists_whole?_bounded hq hfinite hle
  have hquotient : most.dividedBy (.int (g + 1)) = .ok x := by
    rw [Json.dividedBy, hq]
    change (q.divide (.whole (g + 1))).mapError Fault.calculation = _
    rw [hdivide]
    rfl
  refine ⟨bounded share most, n, ?_, hn⟩
  rw [childCount_eq g hmost, hquotient]
  change (Fault.wholePart x >>= _) = _
  rw [Fault.wholePart, hcut]
  rfl

theorem shareable_of_childCount {settings most count : Json} {g : Int}
    (hmost : settings.fieldOr "max_children_per_generation" (.int 2) = .ok most)
    (hcount : childCount settings (.int g) = .ok count) :
    ∃ q, most.quantity? = some q ∧ Shareable q (g + 1) := by
  rw [childCount_eq g hmost] at hcount
  cases hq : most.quantity? with
  | none =>
      rw [Json.dividedBy, hq] at hcount
      cases hcount
  | some q =>
      refine ⟨q, rfl, ?_⟩
      rw [Json.dividedBy, hq] at hcount
      change ((q.divide (.whole (g + 1))).mapError Fault.calculation >>= _) = _ at hcount
      cases hdivide : q.divide (.whole (g + 1)) with
      | error f =>
          rw [hdivide] at hcount
          cases hcount
      | ok x =>
          rw [hdivide] at hcount
          change ((Number.cut x).mapError Fault.cut >>= _) = _ at hcount
          cases hcut : Number.cut x with
          | error f =>
              rw [hcut] at hcount
              cases hcount
          | ok share => exact shareable_of_cut hdivide hcut

end Persona.Lineage
