import Mathlib
import Storefront.Proofs.Number.Reading

/-!
# The order of doubles

Finite doubles are compared by their units, so the sign of a zero does not count, and the integers
of 53 bits are doubles without being rounded.

* `Binary64.le_of_units`: doubles of one value stand in the same relations to all doubles.
* `Binary64.le_iff_rank`: apart from NaN, the doubles are in a linear order.
* `Binary64.ofInt?_of_small`: a small integer is a double of its value.
* `Binary64.numEq_ofInt_iff`: small integers are equal as doubles only when they are equal.
* `Binary64.ofInt?_eq_none_iff`: the integers for which there is no double.
-/

namespace Storefront

namespace Binary64

/-! ## Order by units -/

theorem eq_finite_of_isFinite {x : Binary64} (h : x.isFinite = true) :
    ∃ negative m, x = .finite negative m := by
  cases x with
  | nan => cases h
  | infinity negative => cases h
  | finite negative m => exact ⟨negative, m, rfl⟩

theorem le_iff_units {x y : Binary64} (hx : x.isFinite = true) (hy : y.isFinite = true) :
    x.le y = true ↔ x.units ≤ y.units := by
  obtain ⟨a, m, rfl⟩ := eq_finite_of_isFinite hx
  obtain ⟨b, n, rfl⟩ := eq_finite_of_isFinite hy
  exact decide_eq_true_iff

theorem numEq_iff_units {x y : Binary64} (hx : x.isFinite = true) (hy : y.isFinite = true) :
    x.numEq y = true ↔ x.units = y.units := by
  rw [numEq, Bool.and_eq_true, le_iff_units hx hy, le_iff_units hy hx]
  omega

/-- Doubles of one value stand in the same relations to all doubles. -/
theorem le_of_units {x x' : Binary64} (hx : x.isFinite = true) (hx' : x'.isFinite = true)
    (h : x.units = x'.units) (y : Binary64) : x.le y = x'.le y ∧ y.le x = y.le x' := by
  obtain ⟨a, m, rfl⟩ := eq_finite_of_isFinite hx
  obtain ⟨b, n, rfl⟩ := eq_finite_of_isFinite hx'
  cases y with
  | nan => exact ⟨rfl, rfl⟩
  | infinity negative => exact ⟨rfl, rfl⟩
  | finite negative k =>
    simp only [units] at h
    simp only [le, h, and_self]

/-- What lies between zero and a finite double is finite. -/
theorem isFinite_of_le {x y : Binary64} (hZero : zero.le x = true) (h : x.le y = true)
    (hy : y.isFinite = true) : x.isFinite = true := by
  cases x with
  | nan => cases h
  | infinity negative =>
    obtain ⟨b, m, rfl⟩ := eq_finite_of_isFinite hy
    cases negative with
    | true => cases hZero
    | false => cases h
  | finite negative m => rfl

theorem le_trans {x y z : Binary64} (hxy : x.le y = true) (hyz : y.le z = true) :
    x.le z = true := by
  cases x <;> cases y <;> cases z <;> grind [le]

/-- What is above or equal to a double is a number, and equal to itself. -/
theorem le_self_of_le {x y : Binary64} (h : y.le x = true) : x.le x = true := by
  cases x <;> cases y <;> simp_all [le]

/-- Of two doubles that are not negative, and so are numbers, one is below or equal to the other. -/
theorem le_of_not_lt {x y : Binary64} (hx : zero.le x = true) (hy : zero.le y = true)
    (h : y.lt x = false) : x.le y = true := by
  cases x <;> cases y <;> simp_all [le, lt, zero]

/-! ## Places -/

/-- The place of a number among the doubles. NaN has none, and is put with the lowest. -/
def rank : Binary64 → WithBot (WithTop ℤ)
  | .nan => ⊥
  | .infinity negative => if negative then ⊥ else ((⊤ : WithTop ℤ) : WithBot (WithTop ℤ))
  | .finite negative m => ((signed negative m.units : WithTop ℤ) : WithBot (WithTop ℤ))

theorem lt_iff_rank {x y : Binary64} (hx : x.isNaN = false) (hy : y.isNaN = false) :
    x.lt y = true ↔ x.rank < y.rank := by
  cases x with
  | nan => cases hx
  | infinity a =>
    cases y with
    | nan => cases hy
    | infinity b => cases a <;> cases b <;> simp [lt, rank]
    | finite b n => cases a <;> simp [lt, rank]
  | finite a m =>
    cases y with
    | nan => cases hy
    | infinity b =>
      cases b with
      | true => simp [lt, rank]
      | false => exact iff_of_true rfl (WithBot.coe_lt_coe.2 (WithTop.coe_lt_top _))
    | finite b n => simp [lt, rank]

theorem le_eq_not_lt {x y : Binary64} (hx : x.isNaN = false) (hy : y.isNaN = false) :
    x.le y = !y.lt x := by
  cases x <;> cases y <;> grind [le, lt, isNaN]

theorem le_iff_rank {x y : Binary64} (hx : x.isNaN = false) (hy : y.isNaN = false) :
    x.le y = true ↔ x.rank ≤ y.rank := by
  rw [le_eq_not_lt hx hy, Bool.not_eq_true', ← Bool.not_eq_true, lt_iff_rank hy hx, not_lt]

/-- Of two numbers that are equal, the signs of zeros aside, none is NaN and both have one place. -/
theorem numEq_iff_rank {x y : Binary64} (hx : x.isNaN = false) (hy : y.isNaN = false) :
    x.numEq y = true ↔ x.rank = y.rank := by
  rw [numEq, Bool.and_eq_true, le_iff_rank hx hy, le_iff_rank hy hx, le_antisymm_iff]

theorem isNaN_of_le {x y : Binary64} (h : x.le y = true) : x.isNaN = false ∧ y.isNaN = false := by
  cases x <;> cases y <;> simp_all [le, isNaN]

/-! ## Small integers -/

end Binary64

/-- Natural numbers of 53 bits are magnitudes. -/
theorem Magnitude.exists_units_eq {n : Nat} (hn : n < 9007199254740992) :
    ∃ m : Magnitude, m.units = n * Binary64.unitsPerOne := by
  by_cases h0 : n = 0
  · refine ⟨.zero, ?_⟩
    rw [h0, Nat.zero_mul]
    rfl
  · have hLog : n.log2 < 53 := (Nat.log2_lt h0).2 (by omega)
    obtain ⟨hLow, hHigh⟩ := (Nat.log2_eq_iff h0).1 rfl
    have hShift : 2 ^ n.log2 * 2 ^ (52 - n.log2) = 4503599627370496 := by
      rw [← pow_add, show n.log2 + (52 - n.log2) = 52 by omega]
      norm_num
    have hUpper : n * 2 ^ (52 - n.log2) < 9007199254740992 := by
      have := Nat.mul_lt_mul_of_pos_right hHigh (Nat.two_pow_pos (52 - n.log2))
      rw [pow_succ, Nat.mul_right_comm, hShift] at this
      exact this
    have hLower : 4503599627370496 ≤ n * 2 ^ (52 - n.log2) := by
      rw [← hShift]
      exact Nat.mul_le_mul_right _ hLow
    refine ⟨⟨n * 2 ^ (52 - n.log2), 1022 + n.log2, hUpper, by omega, Or.inr hLower⟩, ?_⟩
    rw [Magnitude.units_eq, Binary64.unitsPerOne_eq rfl, Nat.mul_assoc, ← pow_add]
    dsimp only
    congr 2
    omega

namespace Binary64

/-- The numeral of an integer reads to the double of the integer. -/
theorem toBinary64_of_ofInt? {n : Int} {x : Binary64} (h : ofInt? n = some x) :
    (Numeral.ofInt n).toBinary64 = x := by
  obtain ⟨m, hNearest, rfl⟩ := Option.map_eq_some_iff.1 h
  rw [Numeral.toBinary64_eq_nearest, nearest]
  simp only [Numeral.ofInt, Int.toNat_zero, neg_zero, pow_zero, Nat.mul_one, hNearest,
    Option.elim_some]

/-- An integer of 53 bits is a double of its value. -/
theorem ofInt?_of_small {n : Int} (hn : n.natAbs < 9007199254740992) :
    ∃ x, ofInt? n = some x ∧ x.isFinite = true ∧ x.units = n * unitsPerOne := by
  obtain ⟨m, hm⟩ := Magnitude.exists_units_eq hn
  have hNearest : Magnitude.nearest? (n.natAbs * unitsPerOne) 1 = some m := by
    rw [← hm, ← Nat.mul_one m.units]
    exact Magnitude.nearest?_units m Nat.one_pos
  refine ⟨.finite (decide (n < 0)) m, ?_, rfl, ?_⟩
  · rw [ofInt?, hNearest]
    rfl
  · rw [units, signed, hm, Nat.cast_mul]
    by_cases h : n < 0
    · rw [decide_eq_true h, if_pos rfl, ← neg_mul]
      congr 1
      omega
    · rw [decide_eq_false h, if_neg Bool.false_ne_true]
      congr 1
      omega

/-- Integers of 53 bits are equal as doubles only when they are equal. -/
theorem numEq_ofInt_iff {a b : Int} (ha : a.natAbs < 9007199254740992)
    (hb : b.natAbs < 9007199254740992) {x : Binary64} (h : ofInt? a = some x) :
    x.numEq (Numeral.ofInt b).toBinary64 = true ↔ a = b := by
  obtain ⟨x', hx', hxFinite, hxUnits⟩ := ofInt?_of_small ha
  obtain ⟨y, hy, hyFinite, hyUnits⟩ := ofInt?_of_small hb
  rw [h] at hx'
  injection hx' with hx'
  subst hx'
  rw [toBinary64_of_ofInt? hy, numEq_iff_units hxFinite hyFinite, hxUnits, hyUnits]
  have hOne : (unitsPerOne : Int) ≠ 0 := by
    have := unitsPerOne_pos
    omega
  exact mul_left_inj' hOne

/-! ## Integers beyond the doubles -/

/-- The least natural number that is rounded beyond the doubles: `2 ^ 1024 - 2 ^ 970`, in the middle
between the largest double and the next power of two. -/
def tooLarge : Nat := 18014398509481983 * Nat.pow 2 970

theorem tooLarge_eq {k : Nat} (hk : k = 970) : tooLarge = 18014398509481983 * 2 ^ k := by
  rw [hk]
  unfold tooLarge
  generalize 970 = k
  rfl

/-- There is no double for an integer exactly from `tooLarge` on. -/
theorem ofInt?_eq_none_iff {n : Int} : ofInt? n = none ↔ tooLarge ≤ n.natAbs := by
  obtain ⟨k, hk⟩ : ∃ k, k = 970 := ⟨_, rfl⟩
  obtain ⟨j, hj⟩ : ∃ j, j = 1074 := ⟨_, rfl⟩
  have hBound : 18014398509481983 * 2 ^ (k + j) = tooLarge * unitsPerOne := by
    rw [tooLarge_eq hk, unitsPerOne_eq hj, pow_add, Nat.mul_assoc]
  rw [ofInt?, Option.map_eq_none_iff, Magnitude.nearest?_eq_none_iff (k := k + j) (by omega),
    hBound]
  exact Nat.mul_le_mul_right_iff unitsPerOne_pos

end Binary64

end Storefront
