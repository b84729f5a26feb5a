import Mathlib
import Storefront.Number.Shortest
import Storefront.Proofs.Number.Rounding

/-!
# Reading numbers back

The text of a finite double is a numeral that reads to the same double, wherever the point or the
power of ten was put.

* `Numeral.readUnsigned?_layout`: the layout of some digits denotes what the digits denote.
* `Magnitude.readsBack_shortest`: the shortest digits read back.
* `Numeral.exists_read?_chars`: the text of a finite double reads back to it.
* `Numeral.read?_int`, `Numeral.toBinary64_ofInt`: so is the text of an integer, and the integer that
  a double equals reads back to its value.
* `Numeral.inAlphabet_of_read?`: a numeral holds digits, points, signs and exponent marks only.
-/

namespace Storefront

namespace Numeral

/-! ## Digits -/

def AllDigits (ds : List Char) : Prop := ∀ c ∈ ds, c.isDigit = true

theorem AllDigits.append {ds es : List Char} (hd : AllDigits ds) (he : AllDigits es) :
    AllDigits (ds ++ es) := by
  intro c hc
  rcases List.mem_append.1 hc with hc | hc
  · exact hd c hc
  · exact he c hc

theorem AllDigits.take {ds : List Char} (h : AllDigits ds) (n : Nat) : AllDigits (ds.take n) :=
  fun c hc => h c (List.mem_of_mem_take hc)

theorem AllDigits.drop {ds : List Char} (h : AllDigits ds) (n : Nat) : AllDigits (ds.drop n) :=
  fun c hc => h c (List.mem_of_mem_drop hc)

theorem allDigits_replicate (n : Nat) : AllDigits (List.replicate n '0') := by
  intro c hc
  rw [List.eq_of_mem_replicate hc]
  rfl

theorem allDigits_toDigits (n : Nat) : AllDigits (Nat.toDigits 10 n) :=
  fun _ hc => Nat.isDigit_of_mem_toDigits (by decide) (by decide) hc

/-- Zeros in front of digits do not count. -/
theorem ofDigitChars_zeros_append (n : Nat) (ds : List Char) :
    Nat.ofDigitChars 10 (List.replicate n '0' ++ ds) 0 = Nat.ofDigitChars 10 ds 0 := by
  rw [Nat.ofDigitChars_append, Nat.ofDigitChars_replicate_zero, Nat.mul_zero]

/-- Zeros behind digits are powers of ten. -/
theorem ofDigitChars_append_zeros (ds : List Char) (n : Nat) :
    Nat.ofDigitChars 10 (ds ++ List.replicate n '0') 0 = 10 ^ n * Nat.ofDigitChars 10 ds 0 := by
  rw [Nat.ofDigitChars_append, Nat.ofDigitChars_replicate_zero]

/-! ## Parts of a numeral -/

/-- What follows the digits of a numeral is nothing or begins with an exponent mark. -/
theorem eq_mark_of_readExponent? {rest : List Char} {e : Int} (h : readExponent? rest = some e) :
    rest = [] ∨ ∃ cs, rest = 'e' :: cs ∨ rest = 'E' :: cs := by
  cases rest with
  | nil => exact Or.inl rfl
  | cons c cs =>
    by_cases hc : c = 'e' ∨ c = 'E'
    · rcases hc with rfl | rfl
      · exact Or.inr ⟨cs, Or.inl rfl⟩
      · exact Or.inr ⟨cs, Or.inr rfl⟩
    · rw [readExponent?, if_neg hc] at h
      cases h

theorem span_of_readExponent? {rest : List Char} {e : Int} (h : readExponent? rest = some e) :
    rest.takeWhile Char.isDigit = [] ∧ rest.dropWhile Char.isDigit = rest := by
  rcases eq_mark_of_readExponent? h with rfl | ⟨cs, rfl | rfl⟩
  · exact ⟨rfl, rfl⟩
  · exact ⟨rfl, rfl⟩
  · exact ⟨rfl, rfl⟩

theorem readUnsigned?_whole (negative : Bool) {whole rest : List Char} {e : Int}
    (hw : AllDigits whole) (hne : whole ≠ []) (he : readExponent? rest = some e) :
    readUnsigned? negative (whole ++ rest) = some ⟨negative, Nat.ofDigitChars 10 whole 0, e⟩ := by
  obtain ⟨hTake, hDrop⟩ := span_of_readExponent? he
  unfold readUnsigned?
  simp only [List.takeWhile_append_of_pos hw, List.dropWhile_append_of_pos hw, hTake, hDrop,
    List.append_nil]
  rcases eq_mark_of_readExponent? he with rfl | ⟨cs, rfl | rfl⟩
  · simp [hne, he]
  · simp [hne, he]
  · simp [hne, he]

theorem readUnsigned?_point (negative : Bool) {whole part rest : List Char} {e : Int}
    (hw : AllDigits whole) (hne : whole ≠ []) (hp : AllDigits part)
    (he : readExponent? rest = some e) :
    readUnsigned? negative (whole ++ '.' :: (part ++ rest)) =
      some ⟨negative, Nat.ofDigitChars 10 (whole ++ part) 0, e - part.length⟩ := by
  obtain ⟨hTake, hDrop⟩ := span_of_readExponent? he
  have hPoint : ('.' :: (part ++ rest)).takeWhile Char.isDigit = [] := rfl
  have hAfter : ('.' :: (part ++ rest)).dropWhile Char.isDigit = '.' :: (part ++ rest) := rfl
  unfold readUnsigned?
  simp only [List.takeWhile_append_of_pos hw, List.dropWhile_append_of_pos hw, hPoint, hAfter,
    List.takeWhile_append_of_pos hp, List.dropWhile_append_of_pos hp, hTake, hDrop,
    List.append_nil]
  simp [hne, he]

theorem readExponent?_nil : readExponent? [] = some 0 := rfl

theorem readExponent?_power (power : Int) (zeros : Nat) :
    readExponent? ('e' :: (if power < 0 then '-' else '+')
      :: (List.replicate zeros '0' ++ Nat.toDigits 10 power.natAbs)) = some power := by
  have hDigits : AllDigits (List.replicate zeros '0' ++ Nat.toDigits 10 power.natAbs) :=
    (allDigits_replicate zeros).append (allDigits_toDigits _)
  have hAll : (List.replicate zeros '0' ++ Nat.toDigits 10 power.natAbs).all Char.isDigit = true :=
    List.all_eq_true.2 hDigits
  have hNotEmpty : (List.replicate zeros '0' ++ Nat.toDigits 10 power.natAbs).isEmpty = false := by
    rw [List.isEmpty_eq_false_iff]
    exact List.append_ne_nil_of_right_ne_nil _ Nat.toDigits_ne_nil
  have hValue : Nat.ofDigitChars 10 (List.replicate zeros '0' ++ Nat.toDigits 10 power.natAbs) 0
      = power.natAbs := by
    rw [ofDigitChars_zeros_append, Nat.ofDigitChars_ten_toDigits]
  by_cases hp : power < 0
  · simp only [readExponent?, hp, if_true, splitSign, true_or, hNotEmpty, hAll, hValue,
      Bool.false_eq_true, Bool.not_true, or_self, if_false]
    congr 1
    omega
  · simp only [readExponent?, hp, if_true, splitSign, true_or, hNotEmpty, hAll, hValue,
      Bool.false_eq_true, Bool.not_true, or_self, if_false]
    congr 1
    omega

/-! ## Layouts -/

/-- The text is an unsigned numeral for `q`. -/
def Denotes (negative : Bool) (cs : List Char) (q : ℚ) : Prop :=
  ∃ n, readUnsigned? negative cs = some n ∧ n.negative = negative ∧ n.value = q

theorem denotes_leadingZeros (negative : Bool) {ds : List Char} (hd : AllDigits ds) {point : Int}
    (hp : point ≤ 0) :
    Denotes negative ('0' :: '.' :: (List.replicate (-point).toNat '0' ++ ds))
      (Nat.ofDigitChars 10 ds 0 * (10 : ℚ) ^ (point - ds.length)) := by
  have hRead := readUnsigned?_point negative (allDigits_replicate 1) (by simp)
    ((allDigits_replicate (-point).toNat).append hd) readExponent?_nil
  rw [← List.append_assoc, List.replicate_append_replicate, ofDigitChars_zeros_append,
    List.append_nil] at hRead
  refine ⟨_, hRead, rfl, ?_⟩
  rw [value]
  congr 2
  simp only [List.length_append, List.length_replicate]
  omega

/-- All digits stand in front of the point, with zeros up to it. -/
theorem denotes_trailingZeros (negative : Bool) {ds : List Char} (hd : AllDigits ds)
    (hne : ds ≠ []) {point : Int} (hp : 0 < point) (hl : ds.length ≤ point.toNat) :
    Denotes negative (ds ++ List.replicate (point.toNat - ds.length) '0' ++ '.' :: ['0'])
      (Nat.ofDigitChars 10 ds 0 * (10 : ℚ) ^ (point - ds.length)) := by
  have hRead := readUnsigned?_point negative
    (hd.append (allDigits_replicate (point.toNat - ds.length))) (by simp [hne])
    (allDigits_replicate 1) readExponent?_nil
  have hDigits : ds ++ List.replicate (point.toNat - ds.length) '0' ++ List.replicate 1 '0'
      = ds ++ List.replicate (point.toNat - ds.length + 1) '0' := by
    rw [List.append_assoc, List.replicate_append_replicate]
  rw [hDigits, ofDigitChars_append_zeros, List.append_nil] at hRead
  refine ⟨_, hRead, rfl, ?_⟩
  have hExp : point - ds.length = ((point.toNat - ds.length + 1 : Nat) : Int) + -1 := by omega
  rw [value, hExp, zpow_add₀ (by norm_num), zpow_natCast]
  simp only [List.length_replicate]
  push_cast
  ring

theorem denotes_innerPoint (negative : Bool) {ds : List Char} (hd : AllDigits ds) {k : Nat}
    (hk : 0 < k) (hl : k < ds.length) {rest : List Char} {e : Int}
    (he : readExponent? rest = some e) :
    Denotes negative (ds.take k ++ '.' :: (ds.drop k ++ rest))
      (Nat.ofDigitChars 10 ds 0 * (10 : ℚ) ^ (e + k - ds.length)) := by
  have hTake : ds.take k ≠ [] := by
    rw [ne_eq, List.take_eq_nil_iff]
    rintro (h | h)
    · omega
    · rw [h] at hl
      exact Nat.not_lt_zero _ hl
  have hRead := readUnsigned?_point negative (hd.take k) hTake (hd.drop k) he
  rw [List.take_append_drop] at hRead
  refine ⟨_, hRead, rfl, ?_⟩
  rw [value]
  congr 2
  simp only [List.length_drop]
  omega

/-- The digits and the place of the point determine the number that a layout denotes. -/
theorem denotes_layout (negative : Bool) {ds : List Char} (hd : AllDigits ds) (hne : ds ≠ [])
    (point : Int) :
    Denotes negative (Binary64.layout ds point)
      (Nat.ofDigitChars 10 ds 0 * (10 : ℚ) ^ (point - ds.length)) := by
  have hLength : 0 < ds.length := List.length_pos_iff.2 hne
  unfold Binary64.layout
  split
  · split
    · exact denotes_leadingZeros negative hd (by omega)
    · by_cases hl : ds.length ≤ point.toNat
      · simp only [List.take_of_length_le hl, List.drop_of_length_le hl, List.isEmpty_nil, if_true]
        exact denotes_trailingZeros negative hd hne (by omega) hl
      · have hPart : (ds.drop point.toNat).isEmpty = false := by
          rw [List.isEmpty_eq_false_iff, ne_eq, List.drop_eq_nil_iff]
          exact hl
        have hInner := denotes_innerPoint negative hd (k := point.toNat) (by omega) (by omega)
          readExponent?_nil
        rw [List.append_nil, show 0 + ((point.toNat : Nat) : Int) = point by omega] at hInner
        simpa only [show point.toNat - ds.length = 0 by omega, List.replicate_zero,
          List.append_nil, hPart, Bool.false_eq_true, if_false] using hInner
  · have hExp := readExponent?_power (point - 1) (2 - (Nat.toDigits 10 (point - 1).natAbs).length)
    by_cases hl : ds.length ≤ 1
    · simp only [List.take_of_length_le hl, hl, if_true, List.append_nil]
      refine ⟨_, readUnsigned?_whole negative hd hne hExp, rfl, ?_⟩
      rw [value]
      congr 2
      dsimp only
      omega
    · have hInner := denotes_innerPoint negative hd (k := 1) (by omega) (by omega) hExp
      rw [show point - 1 + ((1 : Nat) : Int) = point by omega] at hInner
      simpa only [hl, if_false, List.append_assoc, List.cons_append] using hInner

/-! ## Shortest digits -/

theorem exists_dropTrailingZeros (ds : List Char) :
    ∃ k, ds = Binary64.dropTrailingZeros ds ++ List.replicate k '0' := by
  refine ⟨(ds.reverse.takeWhile (· == '0')).length, ?_⟩
  have hZeros : ds.reverse.takeWhile (· == '0')
      = List.replicate (ds.reverse.takeWhile (· == '0')).length '0' := by
    rw [List.eq_replicate_iff]
    refine ⟨rfl, fun c hc => ?_⟩
    simpa using List.mem_takeWhile_imp hc
  calc ds = (ds.reverse.takeWhile (· == '0') ++ ds.reverse.dropWhile (· == '0')).reverse := by
        rw [List.takeWhile_append_dropWhile, List.reverse_reverse]
    _ = _ := by
        rw [List.reverse_append, hZeros, List.reverse_replicate, Binary64.dropTrailingZeros,
          List.length_replicate]

end Numeral

namespace Magnitude

theorem exact_eq (m : Magnitude) {k : Nat} (hk : k = 1074) :
    m.exact = ⟨m.units * 5 ^ k, -(k : Int)⟩ := by
  have hExp : (-1074 : Int) = -((1074 : Nat) : Int) := rfl
  unfold exact
  rw [hExp, ← hk]
  rfl

theorem readsBack_exact (m : Magnitude) : m.readsBack m.exact = true := by
  obtain ⟨k, hk⟩ : ∃ k, k = 1074 := ⟨_, rfl⟩
  refine decide_eq_true ?_
  rw [← Binary64.nearest_units false m Nat.one_pos, exact_eq m hk,
    Numeral.toBinary64_eq_nearest]
  refine Binary64.nearest_congr false (by positivity)
    (Nat.mul_pos Binary64.unitsPerOne_pos Nat.one_pos) ?_
  have hPow : 5 ^ k * 2 ^ k = 10 ^ k := by rw [← Nat.mul_pow]
  have hPlus : (-(k : Int)).toNat = 0 := by omega
  have hMinus : (- -(k : Int)).toNat = k := by omega
  simp only [Decimal.toNumeral, hPlus, hMinus, Binary64.unitsPerOne_eq hk, pow_zero, Nat.mul_one,
    Nat.mul_assoc, hPow]

/-- The shortest digits read back. -/
theorem readsBack_shortest (m : Magnitude) : m.readsBack m.shortest = true := by
  unfold shortest
  cases h : m.candidates.find? m.readsBack with
  | some d => exact List.find?_some h
  | none => exact readsBack_exact m

theorem eq_zero_of_significand {m : Magnitude} (h : m.significand = 0) : m = zero := by
  cases m with
  | mk significand scale hLt hLe hCanonical =>
    have hScale : scale = 0 := by
      simp only at h
      omega
    simp only at h
    subst h hScale
    rfl

theorem digits_ne_zero_of_readsBack {m : Magnitude} {d : Decimal} (hm : m.significand ≠ 0)
    (h : m.readsBack d = true) : d.digits ≠ 0 := by
  intro hd
  have hRead : (d.toNumeral false).toBinary64 = .finite false m := of_decide_eq_true h
  rw [Numeral.toBinary64_of_digits (n := d.toNumeral false) hd] at hRead
  injection hRead with _ hZero
  rw [← hZero] at hm
  exact hm rfl

end Magnitude

namespace Numeral

theorem toBinary64_signed (negative : Bool) {d : Decimal} {m : Magnitude}
    (h : m.readsBack d = true) : (d.toNumeral negative).toBinary64 = .finite negative m := by
  have hRead : (d.toNumeral false).toBinary64 = .finite false m := of_decide_eq_true h
  rw [toBinary64_eq_nearest, Binary64.nearest] at hRead ⊢
  simp only [Decimal.toNumeral] at hRead ⊢
  generalize Magnitude.nearest? _ _ = nearest at hRead ⊢
  cases nearest with
  | none => cases hRead
  | some m' =>
    injection hRead with _ hm
    rw [hm]
    rfl

theorem readUnsigned?_magnitudeText (negative : Bool) {m : Magnitude} (hm : m.significand ≠ 0) :
    ∃ n, readUnsigned? negative (Binary64.magnitudeText m) = some n ∧
      n.toBinary64 = .finite negative m := by
  have hBack := m.readsBack_shortest
  unfold Binary64.magnitudeText
  generalize m.shortest = d at hBack ⊢
  have hne := Magnitude.digits_ne_zero_of_readsBack hm hBack
  have hAll := allDigits_toDigits d.digits
  have hDigits : Nat.ofDigitChars 10 (Nat.toDigits 10 d.digits) 0 = d.digits :=
    Nat.ofDigitChars_ten_toDigits
  obtain ⟨k, hk⟩ := exists_dropTrailingZeros (Nat.toDigits 10 d.digits)
  dsimp only
  generalize Nat.toDigits 10 d.digits = ds at hAll hDigits hk ⊢
  generalize Binary64.dropTrailingZeros ds = front at hk ⊢
  subst hk
  rw [ofDigitChars_append_zeros] at hDigits
  have hFront : front ≠ [] := by
    rintro rfl
    rw [Nat.ofDigitChars_nil, Nat.mul_zero] at hDigits
    exact hne hDigits.symm
  have hAllFront : AllDigits front := fun c hc => hAll c (List.mem_append_left _ hc)
  obtain ⟨n, hRead, hSign, hValue⟩ := denotes_layout negative hAllFront hFront
    ((front ++ List.replicate k '0').length + d.exponent)
  refine ⟨n, hRead, ?_⟩
  have hExp : ((front ++ List.replicate k '0').length + d.exponent : Int) - front.length
      = d.exponent + k := by
    rw [List.length_append, List.length_replicate]
    omega
  have hDecimal : n.value = (d.toNumeral negative).value := by
    rw [hValue, hExp, value, Decimal.toNumeral, ← hDigits, zpow_add₀ (by norm_num), zpow_natCast]
    push_cast
    ring
  rw [toBinary64_congr (n := d.toNumeral negative) hSign hDecimal]
  exact toBinary64_signed negative hBack

/-! ## Signs -/

theorem splitSign_signed (negative other : Bool) {cs : List Char} {n : Numeral}
    (h : readUnsigned? other cs = some n) :
    splitSign ((if negative then ['-'] else []) ++ cs) = (negative, cs) := by
  cases negative with
  | true => rfl
  | false =>
    simp only [Bool.false_eq_true, if_false, List.nil_append]
    unfold splitSign
    split
    · simp [readUnsigned?] at h
    · simp [readUnsigned?] at h
    · rfl

theorem read?_signed (negative : Bool) {cs : List Char} {n : Numeral}
    (h : readUnsigned? negative cs = some n) :
    read? ((if negative then ['-'] else []) ++ cs) = some n := by
  rw [read?, splitSign_signed negative negative h]
  exact h

/-- The text of a finite double is a numeral that reads back to it. -/
theorem exists_read?_chars {x : Binary64} (hx : x.isFinite = true) :
    ∃ n, read? x.chars = some n ∧ n.toBinary64 = x := by
  cases x with
  | nan => cases hx
  | infinity negative => cases hx
  | finite negative m =>
    simp only [Binary64.chars]
    by_cases hm : m.significand = 0
    · rw [if_pos hm, Magnitude.eq_zero_of_significand hm]
      exact ⟨⟨negative, 0, -1⟩, read?_signed negative rfl, toBinary64_of_digits rfl⟩
    · rw [if_neg hm]
      obtain ⟨n, hRead, hValue⟩ := readUnsigned?_magnitudeText negative hm
      exact ⟨n, read?_signed negative hRead, hValue⟩

/-- The numeral of an integer. -/
def ofInt (n : Int) : Numeral := ⟨decide (n < 0), n.natAbs, 0⟩

/-- The text of an integer is its digits, behind a minus sign where it is negative. -/
theorem toList_int (n : Int) : (toString n : String).toList =
    (if decide (n < 0) then ['-'] else []) ++ Nat.toDigits 10 n.natAbs := by
  rw [Int.toString_eq_repr]
  cases n with
  | ofNat k =>
    rw [Int.repr, ← Nat.toList_repr]
    rfl
  | negSucc k =>
    rw [Int.repr, ← Nat.toList_repr]
    simp [Int.negSucc_lt_zero]

/-- The text of an integer is a numeral for it. -/
theorem read?_int (n : Int) : read? (toString n : String).toList = some (ofInt n) := by
  have hRead := readUnsigned?_whole (decide (n < 0)) (allDigits_toDigits n.natAbs)
    Nat.toDigits_ne_nil readExponent?_nil
  rw [List.append_nil, Nat.ofDigitChars_ten_toDigits] at hRead
  rw [toList_int]
  exact read?_signed (decide (n < 0)) hRead

theorem toBinary64_ofInt_of_units {n : Int} {m : Magnitude}
    (h : m.units = Binary64.unitsPerOne * n.natAbs) :
    (ofInt n).toBinary64 = .finite (decide (n < 0)) m := by
  rw [← Binary64.nearest_units _ m Nat.one_pos, toBinary64_eq_nearest]
  refine Binary64.nearest_congr _ (by positivity)
    (Nat.mul_pos Binary64.unitsPerOne_pos Nat.one_pos) ?_
  rw [h]
  simp only [ofInt, Int.toNat_zero, neg_zero, pow_zero, Nat.mul_one]
  exact Nat.mul_comm _ _

/-- The sign of an integer is the sign of the double, or else both are zero. -/
theorem units_signed (negative : Bool) {m : Magnitude} {q : Nat}
    (hq : m.units = Binary64.unitsPerOne * q) :
    (Binary64.finite (decide (Binary64.signed negative q < 0)) m).units =
      (Binary64.finite negative m).units := by
  rw [Binary64.units, Binary64.units, hq]
  cases negative with
  | false =>
    have hSign : ¬ Binary64.signed false q < 0 := by
      simp only [Binary64.signed, Bool.false_eq_true, if_false]
      omega
    rw [decide_eq_false hSign]
  | true =>
    by_cases hZero : q = 0
    · rw [hZero, Nat.mul_zero]
      rfl
    · have hSign : Binary64.signed true q < 0 := by
        simp only [Binary64.signed, if_true]
        omega
      rw [decide_eq_true hSign]

/-- The integer that a double equals reads back to a double of the same value; the sign of a zero
is not kept. -/
theorem toBinary64_ofInt {x : Binary64} {n : Int} (h : x.toInt? = some n) :
    (ofInt n).toBinary64.isFinite = true ∧ (ofInt n).toBinary64.units = x.units := by
  cases x with
  | nan => cases h
  | infinity negative => cases h
  | finite negative m =>
    rw [Binary64.toInt?] at h
    split at h
    · rename_i hMod
      injection h with hn
      obtain ⟨q, hq⟩ : ∃ q, m.units = Binary64.unitsPerOne * q := Nat.dvd_of_mod_eq_zero hMod
      rw [hq, Nat.mul_div_cancel_left q Binary64.unitsPerOne_pos] at hn
      have hAbs : n.natAbs = q := by
        rw [← hn, Binary64.signed]
        split <;> omega
      rw [toBinary64_ofInt_of_units (by rw [hAbs, hq]), ← hn]
      exact ⟨rfl, units_signed negative hq⟩
    · cases h

/-! ## The alphabet of numerals -/

/-- The characters that numerals are made of. -/
def InAlphabet (c : Char) : Prop := c.isDigit = true ∨ c ∈ ['.', '+', '-', 'e', 'E']

theorem mem_splitSign {c : Char} {cs : List Char} (hc : c ∈ cs) :
    InAlphabet c ∨ c ∈ (splitSign cs).2 := by
  unfold splitSign
  split
  · rcases List.mem_cons.1 hc with rfl | hc
    · exact Or.inl (Or.inr (by decide))
    · exact Or.inr hc
  · rcases List.mem_cons.1 hc with rfl | hc
    · exact Or.inl (Or.inr (by decide))
    · exact Or.inr hc
  · exact Or.inr hc

theorem inAlphabet_of_readExponent? {cs : List Char} {e : Int} (h : readExponent? cs = some e) :
    ∀ c ∈ cs, InAlphabet c := by
  intro c hc
  cases cs with
  | nil => cases hc
  | cons mark rest =>
    rw [readExponent?] at h
    by_cases hMark : mark = 'e' ∨ mark = 'E'
    · rw [if_pos hMark] at h
      by_cases hAll : (splitSign rest).2.all Char.isDigit = true
      · rcases List.mem_cons.1 hc with rfl | hc
        · rcases hMark with rfl | rfl
          · exact Or.inr (by decide)
          · exact Or.inr (by decide)
        · rcases mem_splitSign hc with hc | hc
          · exact hc
          · exact Or.inl (List.all_eq_true.1 hAll c hc)
      · simp [hAll] at h
    · rw [if_neg hMark] at h
      cases h

theorem inAlphabet_of_readUnsigned? {negative : Bool} {cs : List Char} {n : Numeral}
    (h : readUnsigned? negative cs = some n) : ∀ c ∈ cs, InAlphabet c := by
  intro c hc
  have hDigit {ds : List Char} (hd : c ∈ ds.takeWhile Char.isDigit) : InAlphabet c :=
    Or.inl (List.mem_takeWhile_imp hd)
  rw [← List.takeWhile_append_dropWhile (p := Char.isDigit) (l := cs)] at hc
  rcases List.mem_append.1 hc with hc | hc
  · exact hDigit hc
  · unfold readUnsigned? at h
    generalize cs.dropWhile Char.isDigit = after at h hc
    dsimp only at h
    split at h
    · rename_i r
      split at h
      · cases h
      · obtain ⟨e, he, -⟩ := Option.map_eq_some_iff.1 h
        rcases List.mem_cons.1 hc with rfl | hc
        · exact Or.inr (by decide)
        · rw [← List.takeWhile_append_dropWhile (p := Char.isDigit) (l := r)] at hc
          rcases List.mem_append.1 hc with hc | hc
          · exact hDigit hc
          · exact inAlphabet_of_readExponent? he c hc
    · split at h
      · cases h
      · obtain ⟨e, he, -⟩ := Option.map_eq_some_iff.1 h
        exact inAlphabet_of_readExponent? he c hc

/-- A numeral holds digits, points, signs and exponent marks only. -/
theorem inAlphabet_of_read? {cs : List Char} {n : Numeral} (h : read? cs = some n) :
    ∀ c ∈ cs, InAlphabet c := by
  intro c hc
  rcases mem_splitSign hc with hc | hc
  · exact hc
  · exact inAlphabet_of_readUnsigned? h c hc

end Numeral

end Storefront
