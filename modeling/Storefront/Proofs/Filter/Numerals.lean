import Mathlib
import Storefront.Proofs.Filter.Building
import Storefront.Proofs.Filter.Reading
import Storefront.Proofs.Number.Integral
import Storefront.Proofs.Number.Nearest

/-!
# The literals of numbers

A whole number is written digit by digit, whether it is an integer or a double, so its literal is exact.
The literal of any other double is a numeral to which no double is nearer. So equal numbers have one
literal, and different numbers have different ones: what reads to a double with a fractional part is never
made of digits alone.

* `numeral?`: the numeral that a text is.
* `IsNumber`: the values that can be written, and the numbers that they are.
* `Spells`: the two ways in which a number is written, and `Spells.eq_iff`: they never meet.
* `IsNumeralOf`: what a numeral says of the value it stands for.
* `exists_numberLiteral`: every number has a literal.
* `numberLiteral_isNumeralOf`: what literals say, and which values share one.
-/

namespace Storefront

namespace Binary64

theorem toRat_of_toInt? {x : Binary64} {n : Int} (h : x.toInt? = some n) : x.toRat = n := by
  have hOne : (unitsPerOne : ℚ) ≠ 0 := Nat.cast_ne_zero.2 unitsPerOne_pos.ne'
  rw [toRat, (units_of_toInt? h).2]
  push_cast
  exact mul_div_cancel_right₀ _ hOne

/-- A double that is a whole number equals an integer. -/
theorem toInt?_of_toRat {x : Binary64} {k : Int} (hFinite : x.isFinite = true) (h : x.toRat = k) :
    x.toInt? = some k := by
  obtain ⟨negative, m, rfl⟩ := eq_finite_of_isFinite hFinite
  have hOne : (unitsPerOne : ℚ) ≠ 0 := Nat.cast_ne_zero.2 unitsPerOne_pos.ne'
  have hUnits : (finite negative m).units = k * unitsPerOne := by
    rw [toRat, div_eq_iff hOne] at h
    exact_mod_cast h
  have hAbs : m.units = k.natAbs * unitsPerOne := by
    have hNatAbs := congrArg Int.natAbs hUnits
    rw [Int.natAbs_mul, Int.natAbs_natCast, units, signed] at hNatAbs
    split at hNatAbs
    · rwa [Int.natAbs_neg, Int.natAbs_natCast] at hNatAbs
    · rwa [Int.natAbs_natCast] at hNatAbs
  have hDvd : unitsPerOne ∣ m.units := ⟨k.natAbs, by rw [hAbs, Nat.mul_comm]⟩
  obtain ⟨n, hn⟩ : ∃ n, (finite negative m).toInt? = some n := exists_toInt?_of_dvd hDvd
  have hSame : (n : ℚ) = k := by rw [← toRat_of_toInt? hn, h]
  rw [hn, Int.cast_inj.1 hSame]

/-- Finite doubles that are one number are one double, unless they are zeros. -/
theorem eq_of_toRat_eq {x y : Binary64} (hx : x.isFinite = true) (hy : y.isFinite = true)
    (h : x.toRat = y.toRat) (hNotZero : x.toRat ≠ 0) : x = y := by
  obtain ⟨a, m, rfl⟩ := eq_finite_of_isFinite hx
  obtain ⟨b, m', rfl⟩ := eq_finite_of_isFinite hy
  have hOne : (unitsPerOne : ℚ) ≠ 0 := Nat.cast_ne_zero.2 unitsPerOne_pos.ne'
  have hUnits : signed a m.units = signed b m'.units := by
    rw [toRat, toRat, div_left_inj' hOne, Int.cast_inj] at h
    exact h
  have hUnitsNotZero : signed a m.units ≠ 0 := by
    intro hZero
    rw [toRat, units, hZero, Int.cast_zero, zero_div] at hNotZero
    exact hNotZero rfl
  unfold signed at hUnits hUnitsNotZero
  have hSame : a = b ∧ m.units = m'.units := by
    split_ifs at hUnits hUnitsNotZero with ha hb hb
    · exact ⟨ha.trans hb.symm, by omega⟩
    · omega
    · omega
    · exact ⟨(Bool.eq_false_of_not_eq_true ha).trans (Bool.eq_false_of_not_eq_true hb).symm, by omega⟩
  have hMagnitude : some m = some m' := by
    rw [← Magnitude.nearest?_units m Nat.one_pos, ← Magnitude.nearest?_units m' Nat.one_pos, hSame.2]
  rw [hSame.1, Option.some.inj hMagnitude]

end Binary64

namespace Numeral

theorem toRat_ofInt (n : Int) : (ofInt n).toRat = n := by
  have hValue : (ofInt n).value = ((n.natAbs : ℤ) : ℚ) := by
    rw [value, ofInt, zpow_zero, mul_one, Int.cast_natCast]
  rw [toRat, hValue, Binary64.signedRat, ofInt]
  by_cases hn : n < 0
  · rw [decide_eq_true hn, if_pos rfl, ← Int.cast_neg, Int.cast_inj]
    omega
  · rw [decide_eq_false hn, if_neg Bool.false_ne_true, Int.cast_inj]
    omega

end Numeral

namespace Filter

/-! ## Numbers and their texts -/

/-- The numeral that a text is. -/
def numeral? (t : Text) : Option Numeral := t.chars?.bind Numeral.read?

def IsWhole (q : ℚ) : Prop := ∃ k : Int, q = k

/-- A value that can be written as a numeral, and the number that it is: an integer of no more than 4300
digits, or a finite double. -/
inductive IsNumber : Value → ℚ → Prop where
  | int {n : Int} (h : (Nat.digits 10 n.natAbs).length ≤ Value.maxDigits) : IsNumber (.int n) n
  | float {x : Binary64} (h : x.isFinite = true) : IsNumber (.float x) x.toRat

/-- A number and its text: whole numbers are written as integers, the others as doubles. -/
inductive Spells : ℚ → Text → Prop where
  | whole (k : Int) : Spells k (Text.ofString (toString k))
  | fractional {x : Binary64} (hFinite : x.isFinite = true) (h : ¬ IsWhole x.toRat) :
    Spells x.toRat (Text.ofString x.text)

/-- The text is a numeral for a value that is a number. A whole number is what the numeral denotes, and it
is written with digits only, but for its sign. A double is the nearest one to what the numeral denotes, and
the numeral reads to it unless it is a whole number. -/
structure IsNumeralOf (t : Text) (v : Value) (q : ℚ) (n : Numeral) : Prop where
  read : numeral? t = some n
  exact : IsWhole q → n.toRat = q
  digits : IsWhole q → ∀ p ∈ t, p = .char '-' ∨ p.isDigit = true
  nearest : ∀ x, v = .float x → x.IsNearest n.toRat
  toBinary64 : ∀ x, v = .float x → ¬ IsWhole q → n.toBinary64 = x

theorem isLong_eq_false_iff {n : Int} :
    Value.isLong n = false ↔ (Nat.digits 10 n.natAbs).length ≤ Value.maxDigits := by
  rw [Value.isLong, decide_eq_false_iff_not, Nat.not_le, Nat.pow_eq,
    Nat.digits_length_le_iff (by decide)]

theorem numeral?_ofString (s : String) : numeral? (Text.ofString s) = Numeral.read? s.toList := by
  rw [numeral?, Text.ofString, chars?_ofChars, Option.bind_some]

theorem numeral?_int (k : Int) :
    numeral? (Text.ofString (toString k)) = some (Numeral.ofInt k) := by
  rw [numeral?_ofString, Numeral.read?_int]

theorem exists_numeral?_text {x : Binary64} (h : x.isFinite = true) :
    ∃ n, numeral? (Text.ofString x.text) = some n ∧ n.toBinary64 = x := by
  obtain ⟨n, hRead, hValue⟩ := Numeral.exists_read?_chars h
  refine ⟨n, ?_, hValue⟩
  rw [numeral?_ofString, Binary64.text, String.toList_ofList, hRead]

/-! ## One text for each number -/

/-- What an integer is written as reads to a whole number. -/
theorem text_ne_int {x : Binary64} (hFinite : x.isFinite = true) (h : ¬ IsWhole x.toRat) (k : Int) :
    Text.ofString x.text ≠ Text.ofString (toString k) := by
  intro hSame
  obtain ⟨n, hRead, rfl⟩ := exists_numeral?_text hFinite
  rw [hSame, numeral?_int, Option.some.injEq] at hRead
  subst hRead
  obtain ⟨j, hj⟩ := Numeral.exists_toInt?_of_exponent rfl hFinite
  exact h ⟨j, Binary64.toRat_of_toInt? hj⟩

/-- The text tells the number. -/
theorem Spells.eq_iff {p q : ℚ} {s t : Text} (hs : Spells p s) (ht : Spells q t) : s = t ↔ p = q := by
  cases hs with
  | whole k =>
    cases ht with
    | whole l =>
      rw [Int.cast_inj]
      refine ⟨fun h => ?_, fun h => by rw [h]⟩
      have hNumeral : some (Numeral.ofInt k) = some (Numeral.ofInt l) := by
        rw [← numeral?_int, h, numeral?_int]
      have hNumber : (k : ℚ) = l := by
        rw [← Numeral.toRat_ofInt, Option.some.inj hNumeral, Numeral.toRat_ofInt]
      exact Int.cast_inj.1 hNumber
    | fractional hFinite h =>
      exact iff_of_false (text_ne_int hFinite h k).symm fun hSame => h ⟨k, hSame.symm⟩
  | @fractional x hx hFraction =>
    cases ht with
    | whole l => exact iff_of_false (text_ne_int hx hFraction l) fun hSame => hFraction ⟨l, hSame⟩
    | @fractional y hy _ =>
      constructor
      · intro hSame
        obtain ⟨n, hn, rfl⟩ := exists_numeral?_text hx
        obtain ⟨n', hn', rfl⟩ := exists_numeral?_text hy
        rw [hSame, hn', Option.some.injEq] at hn
        rw [hn]
      · intro hSame
        have hNotZero : x.toRat ≠ 0 := fun hZero => hFraction ⟨0, by rw [hZero, Int.cast_zero]⟩
        rw [Binary64.eq_of_toRat_eq hx hy hSame hNotZero]

/-! ## Literals -/

theorem isNumeralOf_int (v : Value) {k : Int} (h : ∀ x, v = .float x → x.isFinite = true ∧ x.toRat = k) :
    IsNumeralOf (Text.ofString (toString k)) v k (.ofInt k) where
  read := numeral?_int k
  exact _ := Numeral.toRat_ofInt k
  digits _ p hp := by
    obtain ⟨c, hc, rfl⟩ := List.mem_map.1 hp
    rw [Numeral.toList_int, List.mem_append] at hc
    rcases hc with hc | hc
    · split at hc
      · rw [List.mem_singleton.1 hc]
        exact .inl rfl
      · cases hc
    · exact .inr (Numeral.allDigits_toDigits k.natAbs c hc)
  nearest x hx := by
    rw [Numeral.toRat_ofInt, ← (h x hx).2]
    exact Binary64.isNearest_toRat (h x hx).1
  toBinary64 x hx hFraction := absurd ⟨k, rfl⟩ hFraction

theorem exists_isNumeralOf_text {x : Binary64} (hFinite : x.isFinite = true) (h : ¬ IsWhole x.toRat) :
    ∃ n, IsNumeralOf (Text.ofString x.text) (.float x) x.toRat n := by
  obtain ⟨n, hRead, rfl⟩ := exists_numeral?_text hFinite
  refine ⟨n, hRead, fun hWhole => absurd hWhole h, fun hWhole => absurd hWhole h, ?_, ?_⟩
  · rintro y hy
    rw [← Value.float.inj hy]
    exact Numeral.isNearest_toBinary64 hFinite
  · rintro y hy -
    exact Value.float.inj hy

/-- Numbers have a literal, which is a numeral for them. -/
theorem exists_numberLiteral {v : Value} {q : ℚ} (h : IsNumber v q) :
    ∃ t, numberLiteral v = .ok t ∧ Spells q t ∧ ∃ n, IsNumeralOf t v q n := by
  cases h with
  | @int k h =>
    exact ⟨_, numberLiteral_int (isLong_eq_false_iff.2 h), .whole k, _,
      isNumeralOf_int _ fun x hx => by cases hx⟩
  | @float x hFinite =>
    by_cases hWhole : IsWhole x.toRat
    · obtain ⟨k, hk⟩ := hWhole
      have hLiteral : doubleLiteral x = Text.ofString (toString k) := by
        rw [doubleLiteral, Binary64.toInt?_of_toRat hFinite hk]
      refine ⟨_, congrArg Except.ok hLiteral, hk ▸ .whole k, .ofInt k, ?_⟩
      rw [hk]
      exact isNumeralOf_int _ fun y hy => by
        rw [← Value.float.inj hy]
        exact ⟨hFinite, hk⟩
    · have hLiteral : doubleLiteral x = Text.ofString x.text := by
        rw [doubleLiteral]
        cases hInt : x.toInt? with
        | some k => exact absurd ⟨k, Binary64.toRat_of_toInt? hInt⟩ hWhole
        | none => rfl
      exact ⟨_, congrArg Except.ok hLiteral, .fractional hFinite hWhole,
        exists_isNumeralOf_text hFinite hWhole⟩

/-- Every integer that is not too long and every finite double has a numeral as its literal: whole numbers
are denoted exactly, and no double is nearer to what is denoted than the one that was written. Two values
have the same literal exactly if they are the same number, and the literal of all zeros is one digit. -/
theorem numberLiteral_isNumeralOf {v w : Value} {p q : ℚ} (hv : IsNumber v p) (hw : IsNumber w q) :
    ∃ s t, numberLiteral v = .ok s ∧ numberLiteral w = .ok t ∧
      (∃ n, IsNumeralOf s v p n) ∧ (∃ n, IsNumeralOf t w q n) ∧
      (s = t ↔ p = q) ∧ (p = 0 → s = Text.ofString "0") := by
  obtain ⟨s, hs, hSpells, hNumeral⟩ := exists_numberLiteral hv
  obtain ⟨t, ht, hSpells', hNumeral'⟩ := exists_numberLiteral hw
  refine ⟨s, t, hs, ht, hNumeral, hNumeral', hSpells.eq_iff hSpells', fun hZero => ?_⟩
  have hNought : Spells 0 (Text.ofString "0") := Spells.whole 0
  exact (hSpells.eq_iff hNought).2 hZero

/-- Ten to the twenty-third is no double, and the integer below it is. The two ways of writing that integer
give the same digits. -/
theorem numberLiteral_isNumeralOf_belowPowerOfTen :
    IsNumber (.float (Binary64.nearest false (10 ^ 23) 1)) 99999999999999991611392 ∧
      IsNumber (.int 99999999999999991611392) 99999999999999991611392 ∧
      ∃ s t, numberLiteral (.float (Binary64.nearest false (10 ^ 23) 1)) = .ok s ∧
        numberLiteral (.int 99999999999999991611392) = .ok t ∧ s = t ∧
        ∃ n, IsNumeralOf s (.float (Binary64.nearest false (10 ^ 23) 1)) 99999999999999991611392 n := by
  have hInt : (Binary64.nearest false (10 ^ 23) 1).toInt? = some 99999999999999991611392 := by
    decide +kernel
  have hFloat : IsNumber (.float (Binary64.nearest false (10 ^ 23) 1)) 99999999999999991611392 := by
    have hRat := Binary64.toRat_of_toInt? hInt
    push_cast at hRat
    exact hRat ▸ .float (by decide +kernel)
  have hInteger : IsNumber (.int 99999999999999991611392) 99999999999999991611392 := by
    have hShort : Value.isLong 99999999999999991611392 = false := by decide +kernel
    have hNumber := IsNumber.int (isLong_eq_false_iff.1 hShort)
    push_cast at hNumber
    exact hNumber
  obtain ⟨s, t, hs, ht, hNumeral, -, hSame, -⟩ := numberLiteral_isNumeralOf hFloat hInteger
  exact ⟨hFloat, hInteger, s, t, hs, ht, hSame.2 rfl, hNumeral⟩

end Filter

end Storefront
