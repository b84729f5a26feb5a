import Mathlib
import Storefront.Proofs.Number.Order

/-!
# The nearest double

The double that a numeral reads to is the nearest one to the number: no double is nearer, and of two that
are equally near it is the one with the even significand.

* `gap_roundDiv_le`, `eq_or_even_of_gap_eq`: rounding a quotient to an integer.
* `Magnitude.gap_units_of_nearest?`: rounding to a magnitude, by way of the multiples of a power of two.
* `Binary64.IsNearest`, `isNearest_nearest`: the nearest double to a number of either sign.
* `Numeral.isNearest_toBinary64`: what a numeral reads to.
-/

namespace Storefront

/-! ## Multiples of a divisor -/

/-- How far a multiple of the divisor is from the number that is divided. -/
def gap (num den k : Nat) : Nat := ((k * den : Nat) - num : Int).natAbs

variable {num den : Nat}

/-- The gaps of the multiples around a number, and of those beyond them. -/
theorem gap_cases (hd : 0 < den) (num k : Nat) :
    (k < num / den ∧ den + num % den ≤ gap num den k) ∨
      (k = num / den ∧ gap num den k = num % den) ∨
      (k = num / den + 1 ∧ gap num den k = den - num % den) ∨
      (num / den + 1 < k ∧ 2 * den - num % den ≤ gap num den k) := by
  have hSplit : den * (num / den) + num % den = num := Nat.div_add_mod _ _
  have hRest : num % den < den := Nat.mod_lt _ hd
  rw [gap]
  generalize num / den = q at *
  generalize num % den = r at *
  have hNext : (q + 1) * den = den * q + den := by ring
  rcases Nat.lt_trichotomy k q with hBelow | rfl | hAbove
  · have hLe : (k + 1) * den ≤ q * den := Nat.mul_le_mul_right _ hBelow
    refine .inl ⟨hBelow, ?_⟩
    rw [Nat.succ_mul, Nat.mul_comm q] at hLe
    omega
  · refine .inr (.inl ⟨rfl, ?_⟩)
    rw [Nat.mul_comm k]
    omega
  · rcases Nat.lt_or_eq_of_le hAbove with hFar | rfl
    · have hLe : (q + 2) * den ≤ k * den := Nat.mul_le_mul_right _ hFar
      refine .inr (.inr (.inr ⟨hFar, ?_⟩))
      rw [show (q + 2) * den = den * q + 2 * den by ring] at hLe
      omega
    · refine .inr (.inr (.inl ⟨rfl, ?_⟩))
      rw [hNext]
      omega

/-- No multiple of the divisor is nearer. -/
theorem gap_roundDiv_le (hd : 0 < den) (num k : Nat) :
    gap num den (roundDiv num den) ≤ gap num den k := by
  have hRest : num % den < den := Nat.mod_lt _ hd
  have hOther := gap_cases hd num k
  have hRounded := gap_cases hd num (roundDiv num den)
  unfold roundDiv at hRounded ⊢
  dsimp only at hRounded ⊢
  split_ifs at hRounded ⊢ <;> omega

/-- Of two multiples that are equally near, the even one is chosen. -/
theorem eq_or_even_of_gap_eq (hd : 0 < den) {k : Nat}
    (h : gap num den k = gap num den (roundDiv num den)) :
    k = roundDiv num den ∨ roundDiv num den % 2 = 0 := by
  have hRest : num % den < den := Nat.mod_lt _ hd
  have hOther := gap_cases hd num k
  have hRounded := gap_cases hd num (roundDiv num den)
  unfold roundDiv at hRounded h ⊢
  dsimp only at hRounded h ⊢
  split_ifs at hRounded h ⊢ <;> omega

theorem gap_mul_pow (num den k s : Nat) : gap num (den * 2 ^ s) k = gap num den (k * 2 ^ s) := by
  rw [gap, gap, Nat.mul_assoc, Nat.mul_comm den]

/-- Of two multiples up to the number, the smaller one is farther away. -/
theorem gap_lt_gap {a b : Nat} (hd : 0 < den) (hab : a < b) (hb : b * den ≤ num) :
    gap num den b < gap num den a := by
  have hLt : a * den < b * den := Nat.mul_lt_mul_of_pos_right hab hd
  rw [gap, gap]
  omega

/-! ## Magnitudes -/

namespace Magnitude

theorem units_of_ofParts? {significand scale : Nat} {m : Magnitude}
    (h : ofParts? significand scale = some m) :
    m.units = significand * 2 ^ scale ∧ (significand % 2 = 0 → m.significand % 2 = 0) := by
  unfold ofParts? at h
  split at h
  · injection h with h
    subst h
    exact ⟨rfl, id⟩
  · split at h
    · rename_i hCarry
      injection h with h
      subst h
      refine ⟨?_, fun _ => by norm_num⟩
      rw [units_eq]
      dsimp only
      rw [hCarry.1, pow_succ]
      ring
    · cases h

/-- A magnitude is a multiple of a power of two, or it is below all numbers that take 53 bits in units of
that power. -/
theorem exists_units_eq_mul_or_lt (m : Magnitude) (s : Nat) :
    (∃ k, m.units = k * 2 ^ s) ∨ (s ≠ 0 ∧ m.units < 4503599627370496 * 2 ^ s) := by
  rw [units_eq]
  rcases Nat.lt_or_ge m.scale s with hLt | hLe
  · refine .inr ⟨by omega, ?_⟩
    have hPow : 2 ^ (m.scale + 1) ≤ 2 ^ s := Nat.pow_le_pow_right (by decide) hLt
    have hUnits := Nat.mul_lt_mul_of_pos_right m.significand_lt (Nat.two_pow_pos m.scale)
    rw [pow_succ] at hPow
    omega
  · refine .inl ⟨m.significand * 2 ^ (m.scale - s), ?_⟩
    rw [Nat.mul_assoc, ← pow_add, Nat.sub_add_cancel hLe]

/-- No magnitude is nearer than the one that is chosen, and of two that are equally near this is the one
with the even significand. -/
theorem gap_units_of_nearest? {m : Magnitude} (hd : 0 < den)
    (h : nearest? num den = some m) (other : Magnitude) :
    gap num den m.units ≤ gap num den other.units ∧
      (gap num den other.units = gap num den m.units →
        other.units = m.units ∨ m.significand % 2 = 0) := by
  obtain ⟨s, hs⟩ : ∃ s, scaleOf num den = s := ⟨_, rfl⟩
  have hdPow : 0 < den * 2 ^ s := Nat.mul_pos hd (Nat.two_pow_pos s)
  rw [nearest?, hs] at h
  obtain ⟨hUnits, hEven⟩ := units_of_ofParts? h
  rw [Nat.pow_eq] at hUnits hEven
  have hChosen (k : Nat) : gap num den m.units ≤ gap num den (k * 2 ^ s) := by
    rw [hUnits, ← gap_mul_pow, ← gap_mul_pow]
    exact gap_roundDiv_le hdPow num k
  rcases other.exists_units_eq_mul_or_lt s with ⟨k, hk⟩ | ⟨hs0, hBelow⟩
  · refine ⟨hk ▸ hChosen k, fun hSame => ?_⟩
    rw [hk, hUnits, ← gap_mul_pow, ← gap_mul_pow] at hSame
    rw [hk, hUnits]
    exact (eq_or_even_of_gap_eq hdPow hSame).imp (fun hk => by rw [hk]) hEven
  · -- Numbers with a scale lie above the power of two with 53 bits, which is nearer to them.
    have hScale : (num / den).log2 - 52 = s := hs
    have hAbove : 4503599627370496 * 2 ^ s ≤ num / den := (scale_bounds hScale).2.resolve_left hs0
    have hNum : 4503599627370496 * 2 ^ s * den ≤ num := (Nat.le_div_iff_mul_le hd).1 hAbove
    have hFarther := (hChosen 4503599627370496).trans_lt (gap_lt_gap hd hBelow hNum)
    exact ⟨hFarther.le, fun hSame => absurd hSame hFarther.ne'⟩

end Magnitude

/-! ## Doubles -/

namespace Binary64

/-- The number that a finite double is. -/
def toRat (x : Binary64) : ℚ := x.units / unitsPerOne

/-- The significand is even. -/
def IsEven : Binary64 → Prop
  | .finite _ m => m.significand % 2 = 0
  | _ => False

/-- No finite double is nearer to the number, and of two that are equally near this is the one with the
even significand. -/
structure IsNearest (x : Binary64) (q : ℚ) : Prop where
  isFinite : x.isFinite = true
  le : ∀ y : Binary64, y.isFinite = true → |x.toRat - q| ≤ |y.toRat - q|
  even : ∀ y : Binary64, y.isFinite = true → |y.toRat - q| = |x.toRat - q| →
    y.toRat = x.toRat ∨ x.IsEven

/-- A double is the nearest one to itself. -/
theorem isNearest_toRat {x : Binary64} (h : x.isFinite = true) : x.IsNearest x.toRat where
  isFinite := h
  le y _ := by
    rw [sub_self, abs_zero]
    exact abs_nonneg _
  even y _ hSame := by
    rw [sub_self, abs_zero, abs_eq_zero, sub_eq_zero] at hSame
    exact .inl hSame

/-- A number with a minus sign where `negative`. -/
def signedRat (negative : Bool) (q : ℚ) : ℚ := if negative then -q else q

theorem toRat_finite (negative : Bool) (m : Magnitude) :
    (Binary64.finite negative m).toRat = signedRat negative (m.units / unitsPerOne) := by
  rw [toRat, units, signed, signedRat]
  cases negative with
  | false => rfl
  | true =>
    push_cast
    exact neg_div _ _

theorem abs_signedRat_sub (negative : Bool) (p q : ℚ) :
    |signedRat negative p - signedRat negative q| = |p - q| := by
  cases negative with
  | false => rfl
  | true =>
    rw [signedRat, signedRat, if_pos rfl, if_pos rfl, neg_sub_neg, abs_sub_comm]

/-- Numbers of different signs are as far from each other as both are from zero. -/
theorem abs_signedRat_sub_of_ne {negative other : Bool} (h : other ≠ negative) {p q : ℚ} (hp : 0 ≤ p)
    (hq : 0 ≤ q) : |signedRat other p - signedRat negative q| = p + q := by
  have hSum : |p + q| = p + q := abs_of_nonneg (add_nonneg hp hq)
  cases other with
  | false =>
    obtain rfl : negative = true := by simpa using h.symm
    rw [signedRat, signedRat, if_neg Bool.false_ne_true, if_pos rfl, sub_neg_eq_add, hSum]
  | true =>
    obtain rfl : negative = false := by simpa using h.symm
    rw [signedRat, signedRat, if_neg Bool.false_ne_true, if_pos rfl, ← neg_add', abs_neg, hSum]

/-- The distance between a magnitude and a quotient is a gap between integers. -/
theorem abs_units_sub {num den : Nat} (hd : 0 < den) (m : Magnitude) :
    |(m.units : ℚ) / unitsPerOne - num / den| =
      gap (num * unitsPerOne) den m.units / (den * unitsPerOne) := by
  have hUnits : (0 : ℚ) < unitsPerOne := Nat.cast_pos.2 unitsPerOne_pos
  have hDen : (0 : ℚ) < den := Nat.cast_pos.2 hd
  have hScale : (0 : ℚ) < den * unitsPerOne := mul_pos hDen hUnits
  calc |(m.units : ℚ) / unitsPerOne - num / den|
    _ = |((m.units : ℚ) * den - num * unitsPerOne) / (den * unitsPerOne)| := by
      rw [div_sub_div _ _ hUnits.ne' hDen.ne', mul_comm (unitsPerOne : ℚ) num,
        mul_comm (unitsPerOne : ℚ) den]
    _ = |(m.units : ℚ) * den - num * unitsPerOne| / (den * unitsPerOne) := by
      rw [abs_div, abs_of_pos hScale]
    _ = gap (num * unitsPerOne) den m.units / (den * unitsPerOne) := by
      simp only [gap, Nat.cast_natAbs, Int.cast_abs, Int.cast_sub, Int.cast_mul, Int.cast_natCast,
        Nat.cast_mul]

/-- The magnitude that a quotient is rounded to is the nearest one. -/
theorem abs_units_sub_le {num den : Nat} {m : Magnitude} (hd : 0 < den)
    (h : Magnitude.nearest? (num * unitsPerOne) den = some m) (other : Magnitude) :
    |(m.units : ℚ) / unitsPerOne - num / den| ≤ |(other.units : ℚ) / unitsPerOne - num / den| ∧
      (|(other.units : ℚ) / unitsPerOne - num / den| = |(m.units : ℚ) / unitsPerOne - num / den| →
        other.units = m.units ∨ m.significand % 2 = 0) := by
  have hUnits : (0 : ℚ) < unitsPerOne := Nat.cast_pos.2 unitsPerOne_pos
  have hScale : (0 : ℚ) < den * unitsPerOne := mul_pos (Nat.cast_pos.2 hd) hUnits
  obtain ⟨hLe, hEven⟩ := Magnitude.gap_units_of_nearest? hd h other
  rw [abs_units_sub hd, abs_units_sub hd]
  refine ⟨(div_le_div_iff_of_pos_right hScale).2 (Nat.cast_le.2 hLe), fun hSame => hEven ?_⟩
  rwa [div_left_inj' hScale.ne', Nat.cast_inj] at hSame

/-- The double with the rounded magnitude is the nearest one of its sign; one of the other sign is not nearer
than zero. -/
theorem abs_toRat_sub_le {negative other : Bool} {num den : Nat} {m : Magnitude} (hd : 0 < den)
    (h : Magnitude.nearest? (num * unitsPerOne) den = some m) (m' : Magnitude) :
    |(finite negative m).toRat - signedRat negative (num / den)| ≤
        |(finite other m').toRat - signedRat negative (num / den)| ∧
      (|(finite other m').toRat - signedRat negative (num / den)| =
          |(finite negative m).toRat - signedRat negative (num / den)| →
        (finite other m').toRat = (finite negative m).toRat ∨ (finite negative m).IsEven) := by
  rw [toRat_finite, toRat_finite, abs_signedRat_sub]
  by_cases hSign : other = negative
  · obtain ⟨hLe, hEven⟩ := abs_units_sub_le hd h m'
    rw [hSign, abs_signedRat_sub]
    exact ⟨hLe, fun hSame => (hEven hSame).imp_left fun hUnits => by rw [hUnits]⟩
  · have hQuotient : (0 : ℚ) ≤ num / den := div_nonneg (Nat.cast_nonneg _) (Nat.cast_nonneg _)
    have hOther : (0 : ℚ) ≤ m'.units / unitsPerOne := div_nonneg (Nat.cast_nonneg _) (Nat.cast_nonneg _)
    have hZero : |((Magnitude.zero.units : ℕ) : ℚ) / unitsPerOne - num / den| = num / den := by
      rw [show Magnitude.zero.units = 0 from rfl, Nat.cast_zero, zero_div, zero_sub, abs_neg,
        abs_of_nonneg hQuotient]
    obtain ⟨hLe, hEven⟩ := abs_units_sub_le hd h .zero
    rw [hZero] at hLe hEven
    rw [abs_signedRat_sub_of_ne hSign hOther hQuotient]
    refine ⟨by linarith, fun hSame => ?_⟩
    have hNothing : (m'.units : ℚ) / unitsPerOne = 0 := by linarith
    refine (hEven (by linarith)).imp_left fun hUnits => ?_
    rw [← hUnits, show Magnitude.zero.units = 0 from rfl, hNothing, Nat.cast_zero, zero_div, signedRat,
      signedRat, neg_zero, ite_self, ite_self]

/-- Rounding takes a quotient to the nearest double. -/
theorem isNearest_nearest {negative : Bool} {num den : Nat} (hd : 0 < den)
    (hFinite : (nearest negative num den).isFinite = true) :
    (nearest negative num den).IsNearest (signedRat negative (num / den)) := by
  unfold nearest at hFinite ⊢
  cases hNearest : Magnitude.nearest? (num * unitsPerOne) den with
  | none =>
    rw [hNearest] at hFinite
    cases hFinite
  | some m =>
    constructor
    · rfl
    · intro y hy
      obtain ⟨other, m', rfl⟩ := eq_finite_of_isFinite hy
      exact (abs_toRat_sub_le hd hNearest m').1
    · intro y hy
      obtain ⟨other, m', rfl⟩ := eq_finite_of_isFinite hy
      exact (abs_toRat_sub_le hd hNearest m').2

end Binary64

/-! ## Numerals -/

namespace Numeral

/-- The number that a numeral denotes. -/
def toRat (n : Numeral) : ℚ := Binary64.signedRat n.negative n.value

/-- A numeral reads to the nearest double, unless it is beyond all of them. -/
theorem isNearest_toBinary64 {n : Numeral} (h : n.toBinary64.isFinite = true) :
    n.toBinary64.IsNearest n.toRat := by
  have hDen : 0 < 10 ^ (-n.exponent).toNat := by positivity
  rw [toBinary64_eq_nearest] at h ⊢
  rw [toRat, value_eq_div]
  exact Binary64.isNearest_nearest hDen h

end Numeral

end Storefront
