import Mathlib
import Storefront.Number.Numeral

/-!
# Rounding to doubles

Rounding looks at a quotient only, not at the numbers it is written with, and a double is its own
rounding. A numeral therefore reads to a double that its value determines.

* `Magnitude.nearest?_units`: a magnitude is the nearest one to itself.
* `Magnitude.nearest?_eq_none_iff`: the numbers of units to which no magnitude is near.
* `Binary64.nearest_congr`: equal quotients have the same nearest double.
* `Numeral.toBinary64_eq_nearest`: the powers of ten that are settled without being computed are
  settled as rounding would settle them.
* `Numeral.toBinary64_congr`: numerals of one sign and one value read to the same double.
-/

namespace Storefront

/-! ## Quotients -/

theorem roundDiv_mul_right (num den : Nat) {k : Nat} (hk : 0 < k) :
    roundDiv (num * k) (den * k) = roundDiv num den := by
  have hBelow : 2 * (num % den * k) < den * k ↔ 2 * (num % den) < den := by
    rw [← Nat.mul_assoc, Nat.mul_lt_mul_right hk]
  have hAbove : den * k < 2 * (num % den * k) ↔ den < 2 * (num % den) := by
    rw [← Nat.mul_assoc, Nat.mul_lt_mul_right hk]
  unfold roundDiv
  simp only [Nat.mul_div_mul_right _ _ hk, Nat.mul_mod_mul_right, hBelow, hAbove]

theorem roundDiv_mul_self (n : Nat) {den : Nat} (hd : 0 < den) : roundDiv (n * den) den = n := by
  unfold roundDiv
  simp only [Nat.mul_div_cancel _ hd, Nat.mul_mod_left]
  rw [if_pos (by omega)]

theorem roundDiv_of_two_mul_lt {num den : Nat} (h : 2 * num < den) : roundDiv num den = 0 := by
  have hlt : num < den := by omega
  unfold roundDiv
  simp only [Nat.div_eq_of_lt hlt, Nat.mod_eq_of_lt hlt]
  rw [if_pos h]

theorem roundDiv_bounds (num den : Nat) :
    num / den ≤ roundDiv num den ∧ roundDiv num den ≤ num / den + 1 := by
  unfold roundDiv
  dsimp only
  split_ifs <;> omega

/-- Half of a unit in front of an even number is rounded up to it. -/
theorem roundDiv_eq_succ_iff {num half q : Nat} (hHalf : 0 < half) (hq : q % 2 = 1)
    (hlt : num < (q + 1) * (2 * half)) :
    roundDiv num (2 * half) = q + 1 ↔ (2 * q + 1) * half ≤ num := by
  have hSplit : 2 * half * (num / (2 * half)) + num % (2 * half) = num := Nat.div_add_mod _ _
  have hRem : num % (2 * half) < 2 * half := Nat.mod_lt _ (by omega)
  have hQuotient : num / (2 * half) < q + 1 := Nat.div_lt_of_lt_mul (by rwa [Nat.mul_comm])
  have hExpand : (2 * q + 1) * half = 2 * half * q + half := by ring
  rw [hExpand]
  -- A smaller quotient cannot reach `q + 1`, so only the remainder of the quotient `q` counts.
  rcases Nat.lt_or_eq_of_le (Nat.le_of_lt_succ hQuotient) with hBelow | hEq
  · have hRound := (roundDiv_bounds num (2 * half)).2
    have hLess : 2 * half * (num / (2 * half) + 1) ≤ 2 * half * q :=
      Nat.mul_le_mul_left _ hBelow
    rw [Nat.mul_succ] at hLess
    constructor
    · intro h
      omega
    · intro h
      omega
  · rw [hEq] at hSplit
    unfold roundDiv
    simp only [hEq]
    constructor
    · intro h
      split at h
      · omega
      · omega
    · intro h
      rw [if_neg (by omega)]
      split
      · rfl
      · rw [if_neg (by omega)]

/-! ## Magnitudes -/

namespace Magnitude

theorem units_eq (m : Magnitude) : m.units = m.significand * 2 ^ m.scale := rfl

theorem ofParts?_self (m : Magnitude) : ofParts? m.significand m.scale = some m := by
  unfold ofParts?
  rw [dif_pos ⟨m.significand_lt, m.scale_le, m.canonical⟩]

theorem ofParts?_of_large {significand scale : Nat} (h : 2045 < scale) :
    ofParts? significand scale = none := by
  unfold ofParts?
  rw [dif_neg (by omega), dif_neg (by omega)]

/-- The scale of a magnitude is the one that rounding chooses for it. -/
theorem log2_units (m : Magnitude) : m.units.log2 - 52 = m.scale := by
  have hlt := m.significand_lt
  rw [units_eq]
  rcases m.canonical with hs | hs
  · rw [hs, pow_zero, Nat.mul_one]
    by_cases h0 : m.significand = 0
    · rw [h0, Nat.log2_zero]
    · have hlog : m.significand.log2 < 53 := (Nat.log2_lt h0).2 (by omega)
      omega
  · have h2 : 0 < 2 ^ m.scale := Nat.two_pow_pos _
    have hlog : (m.significand * 2 ^ m.scale).log2 = 52 + m.scale := by
      rw [Nat.log2_eq_iff (by positivity)]
      constructor
      · rw [pow_add]
        exact Nat.mul_le_mul_right _ (by omega)
      · rw [show 52 + m.scale + 1 = 53 + m.scale by omega, pow_add]
        exact Nat.mul_lt_mul_of_pos_right (by omega) h2
    omega

/-- A magnitude is the nearest one to itself. -/
theorem nearest?_units (m : Magnitude) {k : Nat} (hk : 0 < k) :
    nearest? (m.units * k) k = some m := by
  have hScale : scaleOf (m.units * k) k = m.scale := by
    rw [scaleOf, Nat.mul_div_cancel _ hk, log2_units]
  have hRound : roundDiv (m.units * k) (k * Nat.pow 2 m.scale) = m.significand := by
    rw [units_eq, Nat.pow_eq, Nat.mul_assoc, Nat.mul_comm (2 ^ m.scale) k]
    exact roundDiv_mul_self _ (by positivity)
  rw [nearest?, hScale, hRound, ofParts?_self]

theorem nearest?_mul_right (num den : Nat) {k : Nat} (hk : 0 < k) :
    nearest? (num * k) (den * k) = nearest? num den := by
  have hScale : scaleOf (num * k) (den * k) = scaleOf num den := by
    rw [scaleOf, scaleOf, Nat.mul_div_mul_right _ _ hk]
  rw [nearest?, nearest?, hScale, Nat.mul_right_comm den k, roundDiv_mul_right _ _ hk]

/-- Equal quotients have the same nearest magnitude. -/
theorem nearest?_congr {a b c d : Nat} (hb : 0 < b) (hd : 0 < d) (h : a * d = c * b) :
    nearest? a b = nearest? c d := by
  rw [← nearest?_mul_right a b hd, ← nearest?_mul_right c d hb, h, Nat.mul_comm b d]

theorem nearest?_of_tiny {num den : Nat} (h : 2 * num < den) : nearest? num den = some zero := by
  have hScale : scaleOf num den = 0 := by
    rw [scaleOf, Nat.div_eq_of_lt (by omega), Nat.log2_zero]
  rw [nearest?, hScale, Nat.pow_eq, pow_zero, Nat.mul_one, roundDiv_of_two_mul_lt h]
  exact ofParts?_self zero

theorem nearest?_of_huge {num den k : Nat} (hk : 2098 ≤ k) (h : 2 ^ k ≤ num / den) :
    nearest? num den = none := by
  have h0 : num / den ≠ 0 := by
    have := Nat.two_pow_pos k
    omega
  have hlog : k ≤ (num / den).log2 := (Nat.le_log2 h0).2 h
  rw [nearest?]
  exact ofParts?_of_large (by rw [scaleOf]; omega)

theorem ofParts?_eq_none_iff {significand scale : Nat} (hHigh : significand ≤ 9007199254740992)
    (hLow : scale = 0 ∨ 4503599627370496 ≤ significand) :
    ofParts? significand scale = none ↔
      2045 < scale ∨ scale = 2045 ∧ significand = 9007199254740992 := by
  unfold ofParts?
  split
  · exact iff_of_false (by simp) (by omega)
  · split
    · exact iff_of_false (by simp) (by omega)
    · exact iff_of_true rfl (by omega)

/-- The units of a number, counted in the scale that rounding chooses for it, take 53 bits. -/
theorem scale_bounds {num s : Nat} (hs : num.log2 - 52 = s) :
    num < 9007199254740992 * 2 ^ s ∧ (s = 0 ∨ 4503599627370496 * 2 ^ s ≤ num) := by
  by_cases h0 : num = 0
  · refine ⟨?_, .inl ?_⟩
    · rw [h0]
      positivity
    · rw [← hs, h0, Nat.log2_zero]
  · obtain ⟨hLow, hHigh⟩ := (Nat.log2_eq_iff h0).1 rfl
    constructor
    · have hPow : 2 ^ (num.log2 + 1) ≤ 2 ^ (53 + s) := Nat.pow_le_pow_right (by omega) (by omega)
      rw [pow_add 2 53 s] at hPow
      omega
    · by_cases hZero : s = 0
      · exact .inl hZero
      · have hPow : 2 ^ (52 + s) ≤ 2 ^ num.log2 := Nat.pow_le_pow_right (by omega) (by omega)
        rw [pow_add 2 52 s] at hPow
        omega

/-- From the largest magnitude and half of its last digit on there is no nearest magnitude. -/
theorem nearest?_eq_none_iff {num k : Nat} (hk : k = 2044) :
    nearest? num 1 = none ↔ 18014398509481983 * 2 ^ k ≤ num := by
  obtain ⟨s, hs⟩ : ∃ s, num.log2 - 52 = s := ⟨_, rfl⟩
  obtain ⟨hHigh, hLow⟩ := scale_bounds hs
  have hPositive : 0 < 2 ^ s := Nat.two_pow_pos s
  obtain ⟨hRoundLow, hRoundHigh⟩ := roundDiv_bounds num (2 ^ s)
  have hQuotientHigh : num / 2 ^ s < 9007199254740992 :=
    Nat.div_lt_of_lt_mul (by rwa [Nat.mul_comm])
  have hQuotientLow : s = 0 ∨ 4503599627370496 ≤ num / 2 ^ s :=
    hLow.imp_right (Nat.le_div_iff_mul_le hPositive).2
  have hNearest : nearest? num 1 = ofParts? (roundDiv num (2 ^ s)) s := by
    rw [nearest?, scaleOf, Nat.div_one, hs, Nat.one_mul, Nat.pow_eq]
  rw [hNearest, ofParts?_eq_none_iff (by omega) (by omega)]
  -- Below the last scale there is room for a significand that is rounded up, and above it for none;
  -- in the last scale everything depends on whether the significand is rounded up to `2 ^ 53`.
  rcases Nat.lt_trichotomy s 2045 with hBelow | hEq | hAbove
  · have hPow : 2 ^ s ≤ 2 ^ k := Nat.pow_le_pow_right (by omega) (by omega)
    exact iff_of_false (by omega) (by omega)
  · have hPow : 2 ^ s = 2 * 2 ^ k := by
      rw [show s = k + 1 by omega, pow_succ, Nat.mul_comm]
    have hRound := roundDiv_eq_succ_iff (Nat.two_pow_pos k) (show 9007199254740991 % 2 = 1 by rfl)
      (hPow ▸ hHigh)
    rw [hPow, hEq]
    simpa using hRound
  · have hPow : 2 ^ (k + 2) ≤ 2 ^ s := Nat.pow_le_pow_right (by omega) (by omega)
    rw [pow_add 2 k 2] at hPow
    exact iff_of_true (.inl hAbove) (by omega)

end Magnitude

/-! ## Doubles -/

namespace Binary64

theorem unitsPerOne_eq {k : Nat} (hk : k = 1074) : unitsPerOne = 2 ^ k := by
  rw [hk]
  unfold unitsPerOne
  generalize 1074 = k
  rfl

theorem unitsPerOne_pos : 0 < unitsPerOne := by
  rw [unitsPerOne_eq rfl]
  positivity

/-- Equal quotients have the same nearest double. -/
theorem nearest_congr (negative : Bool) {a b c d : Nat} (hb : 0 < b) (hd : 0 < d)
    (h : a * d = c * b) : nearest negative a b = nearest negative c d := by
  have hUnits : a * unitsPerOne * d = c * unitsPerOne * b := by
    rw [Nat.mul_right_comm a, Nat.mul_right_comm c, h]
  rw [nearest, nearest, Magnitude.nearest?_congr hb hd hUnits]

/-- A double is the nearest one to its own value. -/
theorem nearest_units (negative : Bool) (m : Magnitude) {k : Nat} (hk : 0 < k) :
    nearest negative (m.units * k) (unitsPerOne * k) = .finite negative m := by
  have hUnits : m.units * k * unitsPerOne = m.units * (unitsPerOne * k) := by
    rw [Nat.mul_assoc, Nat.mul_comm k]
  rw [nearest, hUnits, Magnitude.nearest?_units m (Nat.mul_pos unitsPerOne_pos hk)]
  rfl

end Binary64

/-! ## Numerals -/

namespace Numeral

/-- The number that a numeral denotes, its sign left aside. -/
def value (n : Numeral) : ℚ := n.digits * (10 : ℚ) ^ n.exponent

theorem value_eq_div (n : Numeral) :
    n.value = (n.digits * 10 ^ n.exponent.toNat : Nat) / (10 ^ (-n.exponent).toNat : Nat) := by
  have hExp : n.exponent = (n.exponent.toNat : Int) - ((-n.exponent).toNat : Int) := by omega
  have hPow : (10 : ℚ) ^ n.exponent
      = (10 : ℚ) ^ n.exponent.toNat / (10 : ℚ) ^ (-n.exponent).toNat := by
    conv_lhs => rw [hExp]
    rw [zpow_sub₀ (by norm_num), zpow_natCast, zpow_natCast]
  rw [value, hPow]
  push_cast
  ring

theorem two_pow_le_ten_pow (n : Nat) : 2 ^ (3 * n) ≤ 10 ^ n := by
  rw [pow_mul]
  exact Nat.pow_le_pow_left (by norm_num) n

theorem nearest_of_large (negative : Bool) {digits exponent : Nat} (hd : digits ≠ 0)
    (he : 400 < exponent) :
    Binary64.nearest negative (digits * 10 ^ exponent) 1 = .infinity negative := by
  obtain ⟨k, hk⟩ : ∃ k, k = 1074 := ⟨_, rfl⟩
  have hPow := two_pow_le_ten_pow exponent
  have hNum : 2 ^ (3 * exponent + k) ≤ digits * 10 ^ exponent * Binary64.unitsPerOne / 1 := by
    rw [Nat.div_one, Binary64.unitsPerOne_eq hk, pow_add]
    exact Nat.mul_le_mul_right _ (hPow.trans (Nat.le_mul_of_pos_left _ (by omega)))
  rw [Binary64.nearest, Magnitude.nearest?_of_huge (by omega) hNum]
  rfl

theorem nearest_of_small (negative : Bool) {digits power : Nat}
    (hp : digits.log2 + 401 < power) :
    Binary64.nearest negative digits (10 ^ power) = .finite negative .zero := by
  obtain ⟨k, hk⟩ : ∃ k, k = 1074 := ⟨_, rfl⟩
  have hDigits : digits < 2 ^ (digits.log2 + 1) := Nat.lt_log2_self
  have hPow : 2 ^ (digits.log2 + 1) * 2 ^ (k + 1) ≤ 10 ^ power := by
    rw [← pow_add]
    exact (Nat.pow_le_pow_right (by norm_num) (by omega)).trans (two_pow_le_ten_pow power)
  have hNum : 2 * (digits * Binary64.unitsPerOne) < 10 ^ power := by
    refine lt_of_lt_of_le ?_ hPow
    rw [Binary64.unitsPerOne_eq hk, show 2 * (digits * 2 ^ k) = digits * 2 ^ (k + 1) by ring]
    exact Nat.mul_lt_mul_of_pos_right hDigits (Nat.two_pow_pos (k + 1))
  rw [Binary64.nearest, Magnitude.nearest?_of_tiny hNum]
  rfl

theorem toBinary64_of_digits {n : Numeral} (h : n.digits = 0) :
    n.toBinary64 = .finite n.negative .zero := by
  unfold toBinary64
  rw [if_pos h]

/-- Reading a numeral is rounding its value, also where the power of ten is not computed. -/
theorem toBinary64_eq_nearest (n : Numeral) :
    n.toBinary64 = Binary64.nearest n.negative (n.digits * 10 ^ n.exponent.toNat)
      (10 ^ (-n.exponent).toNat) := by
  by_cases hd : n.digits = 0
  · have hNum : 2 * (0 * Binary64.unitsPerOne) < 10 ^ (-n.exponent).toNat := by
      rw [Nat.zero_mul]
      positivity
    rw [toBinary64_of_digits hd, hd, Nat.zero_mul, Binary64.nearest,
      Magnitude.nearest?_of_tiny hNum]
    rfl
  · unfold toBinary64
    rw [if_neg hd]
    split
    · rename_i he
      rw [show (-n.exponent).toNat = 0 by omega, pow_zero]
      exact (nearest_of_large n.negative hd (by omega)).symm
    · split
      · rename_i he
        rw [show n.exponent.toNat = 0 by omega, pow_zero, Nat.mul_one]
        exact (nearest_of_small n.negative (by omega)).symm
      · rfl

/-- Numerals of one sign and one value read to the same double. -/
theorem toBinary64_congr {m n : Numeral} (hSign : m.negative = n.negative)
    (hValue : m.value = n.value) : m.toBinary64 = n.toBinary64 := by
  have hm : 0 < 10 ^ (-m.exponent).toNat := by positivity
  have hn : 0 < 10 ^ (-n.exponent).toNat := by positivity
  have hmq : (((10 ^ (-m.exponent).toNat : Nat) : ℚ)) ≠ 0 := by exact_mod_cast hm.ne'
  have hnq : (((10 ^ (-n.exponent).toNat : Nat) : ℚ)) ≠ 0 := by exact_mod_cast hn.ne'
  rw [value_eq_div, value_eq_div, div_eq_div_iff hmq hnq] at hValue
  rw [toBinary64_eq_nearest, toBinary64_eq_nearest, hSign]
  exact Binary64.nearest_congr _ hm hn (by exact_mod_cast hValue)

end Numeral

end Storefront
