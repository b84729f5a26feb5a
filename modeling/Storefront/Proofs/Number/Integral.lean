import Mathlib
import Storefront.Proofs.Number.Order

/-!
# Integers among the doubles

Rounding an integer gives a double that is an integer itself, since doubles lie further apart than
integers only from `2 ^ 53` on, and there all of them are integers. So a numeral without a power of
ten below one never reads to a double with a fractional part.

* `Magnitude.dvd_units_of_nearest?`: the magnitude nearest to an integer is an integer.
* `Binary64.units_of_toInt?`: the integer that a double equals has its units.
* `Numeral.exists_toInt?_of_exponent`: what a numeral of an integer reads to.
-/

namespace Storefront

namespace Magnitude

theorem le_scale_of_ofParts? {significand scale : Nat} {m : Magnitude}
    (h : ofParts? significand scale = some m) : scale ≤ m.scale := by
  unfold ofParts? at h
  split at h
  · injection h with h
    rw [← h]
  · split at h
    · injection h with h
      rw [← h]
      exact Nat.le_succ scale
    · cases h

/-- The magnitude nearest to an integer is an integer. -/
theorem dvd_units_of_nearest? {n : Nat} {m : Magnitude}
    (h : nearest? (n * Binary64.unitsPerOne) 1 = some m) : Binary64.unitsPerOne ∣ m.units := by
  by_cases hn : n < 9007199254740992
  · -- A small integer is the value of a magnitude, and rounds to it.
    obtain ⟨m', hUnits⟩ := exists_units_eq hn
    have hSame := nearest?_units m' Nat.one_pos
    rw [Nat.mul_one, hUnits, h] at hSame
    injection hSame with hSame
    rw [hSame, hUnits]
    exact Nat.dvd_mul_left _ _
  · -- From here on the scale takes every magnitude to an integer. The exponent stays a variable,
    -- since the power is too large to be computed.
    obtain ⟨k, hk⟩ : ∃ k, k = 1074 := ⟨_, rfl⟩
    have hLarge : 2 ^ (53 + k) ≤ n * 2 ^ k := by
      rw [pow_add]
      exact Nat.mul_le_mul_right _ (by omega)
    have hLog : 53 + k ≤ (n * 2 ^ k).log2 :=
      (Nat.le_log2 (by have := Nat.two_pow_pos (53 + k); omega)).2 hLarge
    rw [Binary64.unitsPerOne_eq hk] at h ⊢
    have hScale : k ≤ m.scale := by
      refine le_trans ?_ (le_scale_of_ofParts? h)
      rw [scaleOf, Nat.div_one]
      omega
    rw [units_eq]
    exact Dvd.dvd.mul_left (Nat.pow_dvd_pow 2 hScale) _

end Magnitude

namespace Binary64

/-- The integer that a double equals has as many units as the double. -/
theorem units_of_toInt? {x : Binary64} {n : Int} (h : x.toInt? = some n) :
    x.isFinite = true ∧ x.units = n * unitsPerOne := by
  cases x with
  | nan => cases h
  | infinity negative => cases h
  | finite negative m =>
    rw [toInt?] at h
    split at h
    · rename_i hMod
      injection h with h
      refine ⟨rfl, ?_⟩
      obtain ⟨q, hq⟩ : ∃ q, m.units = unitsPerOne * q := Nat.dvd_of_mod_eq_zero hMod
      rw [hq, Nat.mul_div_cancel_left q unitsPerOne_pos] at h
      rw [units, hq, ← h, signed, signed, Nat.cast_mul]
      split
      · rw [neg_mul, mul_comm]
      · exact mul_comm _ _
    · cases h

theorem exists_toInt?_of_dvd {negative : Bool} {m : Magnitude} (h : unitsPerOne ∣ m.units) :
    ∃ n, (Binary64.finite negative m).toInt? = some n := by
  rw [toInt?, if_pos (Nat.mod_eq_zero_of_dvd h)]
  exact ⟨_, rfl⟩

end Binary64

namespace Numeral

/-- A numeral of an integer reads to a double that equals an integer. -/
theorem exists_toInt?_of_exponent {n : Numeral} (h : n.exponent = 0)
    (hFinite : n.toBinary64.isFinite = true) : ∃ k, n.toBinary64.toInt? = some k := by
  rw [toBinary64_eq_nearest, h, Binary64.nearest] at hFinite ⊢
  simp only [Int.toNat_zero, neg_zero, pow_zero, Nat.mul_one] at hFinite ⊢
  cases hNearest : Magnitude.nearest? (n.digits * Binary64.unitsPerOne) 1 with
  | none =>
    rw [hNearest] at hFinite
    cases hFinite
  | some m => exact Binary64.exists_toInt?_of_dvd (Magnitude.dvd_units_of_nearest? hNearest)

end Numeral

end Storefront
