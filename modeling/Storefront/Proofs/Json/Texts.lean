import Mathlib
import Storefront.Json.Reader
import Storefront.Json.Writer

/-!
# Texts in JSON

What is read where a text was written. A code point beyond sixteen bits is written as two halves, so a
half in front of the other one is read as the character that both make, although each of them was
written alone.

* `Text.joined`: a text with such halves put together.
* `readUnit_hex`, `readUnicode_unit`: how the escape of one unit is read, and of two.
* `Written`: the four ways to write a code point.
* `readPoints_closed`: all code points of a text, by induction over the halves that are put together.
* `read_write_text`: a text that is written alone.
* `Text.infix_of_infix_joined`: a text within sixteen bits is part of what is read only where it is part
  of what was written.
-/

namespace Storefront

open CodePoint (isHigh isLow joinHalves)

/-- A text whose halves are put together where they follow each other. -/
def Text.joined : Text → Text
  | [] => []
  | [p] => [p]
  | p :: q :: rest =>
    if isHigh p.toNat ∧ isLow q.toNat then
      Json.pointOf (joinHalves p.toNat q.toNat) :: joined rest
    else p :: joined (q :: rest)

theorem Text.joined_of_pair {p q : CodePoint} (h : isHigh p.toNat ∧ isLow q.toNat) (rest : Text) :
    joined (p :: q :: rest) = Json.pointOf (joinHalves p.toNat q.toNat) :: joined rest := if_pos h

theorem Text.joined_of_not_pair {p q : CodePoint} (h : ¬ (isHigh p.toNat ∧ isLow q.toNat))
    (rest : Text) : joined (p :: q :: rest) = p :: joined (q :: rest) := if_neg h

namespace Json

open Text (hex ofChars joined)

/-! ## Units -/

theorem hex_succ (width n : Nat) :
    hex (width + 2) n = hex (width + 1) (n / 16) ++ [Nat.digitChar (n % 16)] := by
  rw [hex, hex]
  by_cases hn : n < 16
  · have hZero : n / 16 = 0 := by omega
    have hSelf : n % 16 = n := by omega
    rw [hZero, hSelf, Nat.toDigits_of_lt_base hn, Nat.toDigits_of_lt_base (by decide)]
    change List.replicate (width + 1) '0' ++ [n.digitChar] =
      List.replicate width '0' ++ ['0'] ++ [n.digitChar]
    rw [List.replicate_succ']
  · rw [Nat.toDigits_of_base_le (by decide) (Nat.not_lt.1 hn), ← List.append_assoc]
    have hPadding : width + 2 - (Nat.toDigits 16 (n / 16) ++ [(n % 16).digitChar]).length =
        width + 1 - (Nat.toDigits 16 (n / 16)).length := by
      rw [List.length_append, List.length_singleton]
      omega
    rw [hPadding]

theorem hex_four {n : Nat} (hn : n < 0x10000) : hex 4 n =
    [Nat.digitChar (n / 16 / 16 / 16), Nat.digitChar (n / 16 / 16 % 16), Nat.digitChar (n / 16 % 16),
      Nat.digitChar (n % 16)] := by
  have hFirst : n / 16 / 16 / 16 < 16 := by omega
  have hOne : hex 1 (n / 16 / 16 / 16) = [Nat.digitChar (n / 16 / 16 / 16)] := by
    rw [hex, Nat.toDigits_of_lt_base hFirst]
    rfl
  rw [hex_succ, hex_succ, hex_succ, hOne]
  rfl

theorem hexValue?_digitChar : ∀ n < 16, hexValue? (Nat.digitChar n) = some n := by
  decide

theorem leadingUnit?_hex {n : Nat} (hn : n < 0x10000) (rest : Text) :
    leadingUnit? (ofChars (hex 4 n) ++ rest) = some n := by
  rw [hex_four hn]
  change hexUnit? _ _ _ _ = some n
  rw [hexUnit?, hexValue?_digitChar _ (by omega), hexValue?_digitChar _ (by omega),
    hexValue?_digitChar _ (by omega), hexValue?_digitChar _ (by omega)]
  have hValue : ((n / 16 / 16 / 16 * 16 + n / 16 / 16 % 16) * 16 + n / 16 % 16) * 16 + n % 16 = n := by
    omega
  exact congrArg some hValue

theorem length_hex_four {n : Nat} (hn : n < 0x10000) : (ofChars (hex 4 n)).length = 4 := by
  rw [hex_four hn]
  rfl

/-- The escape of a unit behind its backslash. -/
def unitEscape (n : Nat) : Text := .char 'u' :: ofChars (hex 4 n)

theorem ofChars_escapeUnit (n : Nat) : ofChars (escapeUnit n) = .char '\\' :: unitEscape n := rfl

theorem readUnit_hex {n : Nat} (hn : n < 0x10000) {rest : Text} (hRest : rest ≠ []) :
    readUnit (unitEscape n ++ rest) = .ok (n, rest) := by
  have hDrop : (unitEscape n ++ rest).drop 5 = rest := by
    change (ofChars (hex 4 n) ++ rest).drop 4 = rest
    exact List.drop_left' (length_hex_four hn)
  have hLead : leadingUnit? ((unitEscape n ++ rest).drop 1) = some n := leadingUnit?_hex hn rest
  rw [readUnit, hDrop, hLead]
  exact if_neg (by rw [List.isEmpty_iff]; exact hRest)

/-- A unit in front of another one: the two are put together, or the first one stands alone. -/
theorem readUnicode_unit {n m : Nat} (hn : n < 0x10000) (hm : m < 0x10000) {rest : Text}
    (hRest : rest ≠ []) :
    readUnicode (unitEscape n ++ (.char '\\' :: (unitEscape m ++ rest))) =
      if isHigh n ∧ isLow m then .ok (pointOf (joinHalves n m), rest)
      else .ok (pointOf n, .char '\\' :: (unitEscape m ++ rest)) := by
  have hLong : 5 ≤ (ofChars (hex 4 m) ++ rest).length := by
    have hRest := List.length_pos_iff.2 hRest
    rw [List.length_append, length_hex_four hm]
    omega
  have hNext : readUnit (.char 'u' :: (ofChars (hex 4 m) ++ rest)) = .ok (m, rest) :=
    readUnit_hex hm hRest
  rw [readUnicode, readUnit_hex hn (List.cons_ne_nil _ _)]
  simp only [unitEscape, List.cons_append, bind, Except.bind, hLong, and_true]
  rw [hNext]
  by_cases hHigh : isHigh n = true
  · by_cases hLow : isLow m = true
    · simp [hHigh, hLow, pure, Except.pure]
    · simp [hHigh, hLow, pure, Except.pure]
  · simp [hHigh, pure, Except.pure]

/-- A unit that no other one follows. -/
theorem readUnicode_alone {n : Nat} (hn : n < 0x10000) {p : CodePoint} {rest : Text}
    (hp : p ≠ '\\' ∨ ∀ more, rest ≠ .char 'u' :: more) :
    readUnicode (unitEscape n ++ (p :: rest)) = .ok (pointOf n, p :: rest) := by
  rw [readUnicode, readUnit_hex hn (List.cons_ne_nil _ _)]
  simp only [bind, Except.bind]
  split
  · next more h =>
    obtain ⟨rfl, hMore⟩ := List.cons.inj h
    obtain hp | hp := hp
    · exact absurd rfl hp
    · exact absurd hMore (hp more)
  · rfl

theorem isHigh_iff {n : Nat} : isHigh n = true ↔ 0xD800 ≤ n ∧ n < 0xDC00 := by
  rw [isHigh, Bool.and_eq_true, decide_eq_true_iff, decide_eq_true_iff]

theorem isLow_iff {n : Nat} : isLow n = true ↔ 0xDC00 ≤ n ∧ n < 0xE000 := by
  rw [isLow, Bool.and_eq_true, decide_eq_true_iff, decide_eq_true_iff]

theorem lt_of_isHigh {n : Nat} (h : isHigh n = true) : n < 0x10000 := by
  have hBounds := isHigh_iff.1 h
  omega

theorem lt_of_isLow {n : Nat} (h : isLow n = true) : n < 0x10000 := by
  have hBounds := isLow_iff.1 h
  omega

theorem not_isLow_of_isHigh {n : Nat} (h : isHigh n = true) : ¬ isLow n = true := by
  rw [isLow_iff]
  have hBounds := isHigh_iff.1 h
  omega

/-! ## Code points -/

theorem pointOf_toNat (p : CodePoint) : pointOf p.toNat = p := by
  cases p with
  | char c =>
    have hValid : c.toNat.isValidChar := c.valid
    rw [CodePoint.toNat, pointOf, CodePoint.ofNat?, if_pos hValid, Char.ofNat_toNat]
    rfl
  | half h =>
    have hNumber : 0xD800 ≤ 0xD800 + h.val ∧ 0xD800 + h.val < 0xE000 := by omega
    have hNoChar : ¬ (0xD800 + h.val).isValidChar := by
      rintro (hLow | hHigh) <;> omega
    rw [CodePoint.toNat, pointOf, CodePoint.ofNat?, if_neg hNoChar, dif_pos hNumber]
    simp

theorem toNat_lt (p : CodePoint) : p.toNat < 0x110000 := by
  cases p with
  | char c =>
    obtain h | h := c.valid
    · exact Nat.lt_trans h (by decide)
    · exact h.2
  | half h =>
    rw [CodePoint.toNat]
    omega

/-- The ways to write a code point: as itself, as a letter, as a unit, and as two. -/
inductive Written : CodePoint → List Char → Prop
  | plain (c : Char) (hQuote : c ≠ '"') (hEscape : c ≠ '\\') (hPrints : 0x20 ≤ c.toNat) :
    Written c [c]
  | letter (l c : Char) (hUnit : l ≠ 'u') (hLetter : letterEscape? l = some c) :
    Written c ['\\', l]
  | unit (p : CodePoint) (hUnit : p.toNat < 0x10000) : Written p (escapeUnit p.toNat)
  | pair (high low : Nat) (hHigh : isHigh high = true) (hLow : isLow low = true) :
    Written (pointOf (joinHalves high low)) (escapeUnit high ++ escapeUnit low)

theorem letterOf?_cases (p : CodePoint) :
    (∃ e ∈ letterEscapes, p = .char e.1 ∧ letterOf? p = some e.2) ∨
      ((∀ e ∈ letterEscapes, p ≠ .char e.1) ∧ letterOf? p = none) := by
  rw [letterOf?]
  cases hFound : letterEscapes.find? fun e => p = .char e.1 with
  | none =>
    refine .inr ⟨fun e he hp => ?_, rfl⟩
    exact List.find?_eq_none.1 hFound e he (decide_eq_true hp)
  | some e =>
    have hSame := List.find?_some hFound
    exact .inl ⟨e, List.mem_of_find?_eq_some hFound, of_decide_eq_true hSame, rfl⟩

theorem written_writePoint (p : CodePoint) : Written p (writePoint p) := by
  have hLetters : ∀ e ∈ letterEscapes, e.2 ≠ 'u' ∧ letterEscape? e.2 = some e.1 := by decide
  rw [writePoint]
  obtain ⟨e, he, rfl, hLetter⟩ | ⟨hOther, hNone⟩ := letterOf?_cases p
  · rw [hLetter]
    exact .letter e.2 e.1 (hLetters e he).1 (hLetters e he).2
  rw [hNone]
  dsimp only
  split
  · next hPrints =>
    cases p with
    | char c =>
      have hQuote : c ≠ '"' := fun h => hOther ('"', '"') (by decide) (congrArg _ h)
      have hEscape : c ≠ '\\' := fun h => hOther ('\\', '\\') (by decide) (congrArg _ h)
      exact .plain c hQuote hEscape hPrints.1
    | half h =>
      have hNumber : 0xD800 + h.val < 0x7F := hPrints.2
      omega
  split
  · next hUnit => exact .unit p hUnit
  · next hUnit =>
    have hBound := toNat_lt p
    generalize hm : p.toNat - 0x10000 = m
    have hHigh : isHigh (0xD800 + m / 0x400) = true := isHigh_iff.2 (by omega)
    have hLow : isLow (0xDC00 + m % 0x400) = true := isLow_iff.2 (by omega)
    have hJoin : joinHalves (0xD800 + m / 0x400) (0xDC00 + m % 0x400) = p.toNat := by
      unfold joinHalves
      omega
    have hPair := Written.pair _ _ hHigh hLow
    rw [hJoin, pointOf_toNat] at hPair
    exact hPair

theorem Written.ne_nil {p : CodePoint} {cs : List Char} (h : Written p cs) : cs ≠ [] := by
  cases h with
  | plain | letter => exact List.cons_ne_nil _ _
  | unit =>
    rw [escapeUnit]
    exact List.cons_ne_nil _ _
  | pair =>
    rw [escapeUnit, List.cons_append]
    exact List.cons_ne_nil _ _

/-! ## Texts -/

variable {opened front tail : Text} {fuel : Nat}

theorem readPoints_plain {c : Char} (hQuote : c ≠ '"') (hEscape : c ≠ '\\') (hPrints : 0x20 ≤ c.toNat)
    (rest : Text) : readPoints opened (fuel + 1) front (.char c :: rest) =
      readPoints opened fuel (.char c :: front) rest := by
  have hSmall : ¬ (CodePoint.char c).toNat < 0x20 := Nat.not_lt.2 hPrints
  rw [readPoints]
  · exact if_neg hSmall
  · intro h
    exact hQuote (CodePoint.char.inj h)
  · intro h
    exact hEscape (CodePoint.char.inj h)

theorem readPoints_letter {l c : Char} (hUnit : l ≠ 'u') (hLetter : letterEscape? l = some c)
    (rest : Text) : readPoints opened (fuel + 1) front (.char '\\' :: .char l :: rest) =
      readPoints opened fuel (.char c :: front) rest := by
  rw [readPoints, hLetter]
  intro h
  exact hUnit (CodePoint.char.inj h)

theorem readPoints_unit {n : Nat} {p : CodePoint} {rest next : Text}
    (h : readUnicode (unitEscape n ++ rest) = .ok (p, next)) :
    readPoints opened (fuel + 1) front (.char '\\' :: (unitEscape n ++ rest)) =
      readPoints opened fuel (p :: front) next := by
  rw [unitEscape, List.cons_append] at h ⊢
  rw [readPoints, h]
  rfl

/-- How a text goes on that was written, up to its closing quote. -/
def closed (t tail : Text) : Text := ofChars (t.flatMap writePoint) ++ .char '"' :: tail

theorem closed_cons (p : CodePoint) (t tail : Text) :
    closed (p :: t) tail = ofChars (writePoint p) ++ closed t tail := by
  rw [closed, List.flatMap_cons, ofChars, List.map_append, List.append_assoc]
  rfl

theorem closed_ne_nil (t tail : Text) : closed t tail ≠ [] :=
  List.append_ne_nil_of_right_ne_nil _ (List.cons_ne_nil _ _)

/-- A unit that stands alone, because what follows is no other half for it. -/
theorem readUnicode_closed {n : Nat} (hn : n < 0x10000) {t : Text}
    (h : ∀ q ∈ t.head?, ¬ (isHigh n = true ∧ isLow q.toNat = true)) (tail : Text) :
    readUnicode (unitEscape n ++ closed t tail) = .ok (pointOf n, closed t tail) := by
  cases t with
  | nil => exact readUnicode_alone hn (.inl (by decide))
  | cons q t =>
    have hAlone := h q rfl
    rw [closed_cons]
    generalize hWritten : writePoint q = cs
    have hForm := written_writePoint q
    rw [hWritten] at hForm
    cases hForm with
    | plain c hQuote hEscape hPrints =>
      exact readUnicode_alone hn (.inl fun hc => hEscape (CodePoint.char.inj hc))
    | letter l c hUnit hLetter =>
      refine readUnicode_alone hn (.inr ?_)
      intro more hMore
      exact hUnit (CodePoint.char.inj (List.cons.inj hMore).1)
    | unit _ hUnit =>
      rw [ofChars_escapeUnit]
      refine (readUnicode_unit hn hUnit (closed_ne_nil t tail)).trans (if_neg ?_)
      exact hAlone
    | pair high low hHigh hLow =>
      have hNext : ofChars (escapeUnit high ++ escapeUnit low) ++ closed t tail =
          .char '\\' :: (unitEscape high ++ (ofChars (escapeUnit low) ++ closed t tail)) := by
        rw [ofChars, List.map_append, List.append_assoc]
        rfl
      rw [hNext]
      refine (readUnicode_unit hn (lt_of_isHigh hHigh) (List.cons_ne_nil _ _)).trans (if_neg ?_)
      rintro ⟨-, hOther⟩
      exact not_isLow_of_isHigh hHigh hOther

/-- A step reads one code point, unless this is a half and the other one follows. -/
theorem readPoints_step {p : CodePoint} {t : Text}
    (h : ∀ q ∈ t.head?, ¬ (isHigh p.toNat = true ∧ isLow q.toNat = true)) :
    readPoints opened (fuel + 1) front (closed (p :: t) tail) =
      readPoints opened fuel (p :: front) (closed t tail) := by
  rw [closed_cons]
  generalize hWritten : writePoint p = cs
  have hForm := written_writePoint p
  rw [hWritten] at hForm
  cases hForm with
  | plain c hQuote hEscape hPrints => exact readPoints_plain hQuote hEscape hPrints _
  | letter l c hUnit hLetter => exact readPoints_letter hUnit hLetter _
  | unit _ hUnit =>
    have hRead := readUnicode_closed hUnit h tail
    rw [pointOf_toNat] at hRead
    exact readPoints_unit hRead
  | pair high low hHigh hLow =>
    have hRead := readUnicode_unit (lt_of_isHigh hHigh) (lt_of_isLow hLow) (closed_ne_nil t tail)
    rw [if_pos ⟨hHigh, hLow⟩] at hRead
    rw [ofChars, List.map_append, List.append_assoc]
    exact readPoints_unit hRead

theorem writePoint_of_half {p : CodePoint} (h : 0xD800 ≤ p.toNat ∧ p.toNat < 0xE000) :
    writePoint p = escapeUnit p.toNat := by
  have hSmall : ∀ e ∈ letterEscapes, e.1.toNat < 0xD800 := by decide
  have hNotPrinted : ¬ (0x20 ≤ p.toNat ∧ p.toNat < 0x7F) := by omega
  have hUnit : p.toNat < 0x10000 := by omega
  obtain ⟨e, he, rfl, -⟩ | ⟨-, hNone⟩ := letterOf?_cases p
  · have hBound : 0xD800 ≤ e.1.toNat := h.1
    exact absurd (hSmall e he) (Nat.not_lt.2 hBound)
  · rw [writePoint, hNone]
    dsimp only
    rw [if_neg hNotPrinted, if_pos hUnit]

/-- Two halves that follow each other are read in one step. -/
theorem readPoints_halves {p q : CodePoint} {t : Text} (hHigh : isHigh p.toNat = true)
    (hLow : isLow q.toNat = true) :
    readPoints opened (fuel + 1) front (closed (p :: q :: t) tail) =
      readPoints opened fuel (pointOf (joinHalves p.toNat q.toNat) :: front) (closed t tail) := by
  have hFirst : 0xD800 ≤ p.toNat ∧ p.toNat < 0xE000 := by
    have hBounds := isHigh_iff.1 hHigh
    omega
  have hSecond : 0xD800 ≤ q.toNat ∧ q.toNat < 0xE000 := by
    have hBounds := isLow_iff.1 hLow
    omega
  have hRead := readUnicode_unit (lt_of_isHigh hHigh) (lt_of_isLow hLow) (closed_ne_nil t tail)
  rw [if_pos ⟨hHigh, hLow⟩] at hRead
  rw [closed_cons, closed_cons, writePoint_of_half hFirst, writePoint_of_half hSecond]
  exact readPoints_unit hRead

/-- The code points of a text that was written, up to its closing quote. -/
theorem readPoints_closed (t tail : Text) : ∀ fuel front, t.length < fuel →
    readPoints opened fuel front (closed t tail) = .ok (front.reverse ++ joined t, tail) := by
  induction t using Text.joined.induct with
  | case1 =>
    intro fuel front hFuel
    obtain ⟨fuel, rfl⟩ := Nat.exists_eq_succ_of_ne_zero (Nat.ne_of_gt hFuel)
    rw [joined, List.append_nil]
    rfl
  | case2 p =>
    intro fuel front hFuel
    obtain ⟨fuel, rfl⟩ := Nat.exists_eq_succ_of_ne_zero (Nat.ne_of_gt (Nat.zero_lt_of_lt hFuel))
    obtain ⟨fuel, rfl⟩ := Nat.exists_eq_succ_of_ne_zero (Nat.ne_of_gt (Nat.lt_of_succ_lt_succ hFuel))
    rw [readPoints_step (by rintro q ⟨⟩), joined, ← List.reverse_cons]
    rfl
  | case3 p q rest h ih =>
    intro fuel front hFuel
    obtain ⟨fuel, rfl⟩ := Nat.exists_eq_succ_of_ne_zero (Nat.ne_of_gt (Nat.zero_lt_of_lt hFuel))
    have hRest : rest.length < fuel := by
      rw [List.length_cons, List.length_cons] at hFuel
      omega
    rw [readPoints_halves h.1 h.2, ih fuel _ hRest, Text.joined_of_pair h, List.reverse_cons,
      List.append_assoc]
    rfl
  | case4 p q rest h ih =>
    intro fuel front hFuel
    obtain ⟨fuel, rfl⟩ := Nat.exists_eq_succ_of_ne_zero (Nat.ne_of_gt (Nat.zero_lt_of_lt hFuel))
    have hNext : ∀ q' ∈ (q :: rest).head?, ¬ (isHigh p.toNat = true ∧ isLow q'.toNat = true) := by
      rintro q' ⟨⟩
      exact h
    rw [readPoints_step hNext, ih fuel _ (Nat.lt_of_succ_lt_succ hFuel), Text.joined_of_not_pair h,
      List.reverse_cons, List.append_assoc]
    rfl

/-! ## Whole texts -/

theorem length_le_closed (t tail : Text) : t.length < (closed t tail).length := by
  induction t with
  | nil => exact Nat.succ_pos _
  | cons p t ih =>
    have hWritten := List.length_pos_iff.2 (written_writePoint p).ne_nil
    rw [closed_cons, List.length_append, List.length_cons, ofChars, List.length_map]
    omega

/-- What is read where a text was written alone. -/
theorem read_write_text (t : Text) :
    read (Text.ofString (write (.text t))) = .ok (.text (joined t)) := by
  have hText : Text.ofString (write (.text t)) = .char '"' :: closed t [] := by
    rw [write, writeText, Text.ofString, String.toList_ofList, ofChars, List.map_cons,
      List.map_append]
    rfl
  have hRead : readText (closed t []) = .ok (joined t, []) := by
    rw [readText, readPoints_closed t [] _ _ (Nat.lt_succ_of_lt (length_le_closed t []))]
    rfl
  have hValue (fuel : Nat) : readValue (fuel + 1) maxNesting (.char '"' :: closed t []) =
      .ok (.text (joined t), []) := by
    rw [readValue, hRead]
    rfl
  have hSpace : skipSpace (.char '"' :: closed t []) = .char '"' :: closed t [] := rfl
  rw [hText, read, readWithin, hSpace, hValue]
  rfl

end Json

/-! ## Halves that are put together -/

namespace Text

/-- A half stands directly in front of the other one. -/
def HasPair (t : Text) : Prop :=
  ∃ p q, isHigh p.toNat = true ∧ isLow q.toNat = true ∧ [p, q] <:+: t

theorem HasPair.cons {t : Text} (h : HasPair t) (p : CodePoint) : HasPair (p :: t) := by
  obtain ⟨high, low, hHigh, hLow, hInfix⟩ := h
  exact ⟨high, low, hHigh, hLow, hInfix.trans (List.suffix_cons p t).isInfix⟩

/-- A text without such halves is read as it was written. -/
theorem joined_of_not_hasPair {t : Text} (h : ¬ HasPair t) : joined t = t := by
  induction t using joined.induct with
  | case1 => rfl
  | case2 p => rfl
  | case3 p q rest hPair ih =>
    have hInfix : [p, q] <:+: p :: q :: rest := (List.prefix_append [p, q] rest).isInfix
    exact absurd ⟨p, q, hPair.1, hPair.2, hInfix⟩ h
  | case4 p q rest hPair ih => rw [joined_of_not_pair hPair, ih fun hRest => h (hRest.cons p)]

/-- What two halves make lies beyond sixteen bits. -/
theorem le_toNat_join {high low : Nat} (hHigh : isHigh high = true) (hLow : isLow low = true) :
    0x10000 ≤ (Json.pointOf (joinHalves high low)).toNat := by
  have hFirst := Json.isHigh_iff.1 hHigh
  have hSecond := Json.isLow_iff.1 hLow
  have hBounds : 0x10000 ≤ joinHalves high low ∧ joinHalves high low < 0x110000 := by
    unfold joinHalves
    omega
  have hValid : (joinHalves high low).isValidChar := .inr ⟨by omega, hBounds.2⟩
  have hNumber : (Char.ofNat (joinHalves high low)).toNat = joinHalves high low := by
    rw [Char.toNat_ofNat, if_pos hValid]
  rw [Json.pointOf, CodePoint.ofNat?, if_pos hValid, Option.getD_some, CodePoint.toNat, hNumber]
  exact hBounds.1

theorem prefix_of_prefix_joined {s t : Text} (hs : ∀ p ∈ s, p.toNat < 0x10000)
    (h : s <+: joined t) : s <+: t := by
  induction t using joined.induct generalizing s with
  | case1 => exact h
  | case2 p => exact h
  | case3 p q rest hPair ih =>
    rw [joined_of_pair hPair] at h
    obtain rfl | ⟨s, rfl, -⟩ := List.prefix_cons_iff.1 h
    · exact List.nil_prefix
    · have hSmall := hs _ List.mem_cons_self
      have hLarge := le_toNat_join hPair.1 hPair.2
      omega
  | case4 p q rest hPair ih =>
    rw [joined_of_not_pair hPair] at h
    obtain rfl | ⟨s, rfl, hRest⟩ := List.prefix_cons_iff.1 h
    · exact List.nil_prefix
    · exact List.cons_prefix_cons.2 ⟨rfl, ih (fun p hp => hs p (List.mem_cons_of_mem _ hp)) hRest⟩

/-- A text within sixteen bits is part of what is read only where it is part of what was written. -/
theorem infix_of_infix_joined {s t : Text} (hs : ∀ p ∈ s, p.toNat < 0x10000)
    (h : s <:+: joined t) : s <:+: t := by
  induction t using joined.induct with
  | case1 => exact h
  | case2 p => exact h
  | case3 p q rest hPair ih =>
    have hJoined := joined_of_pair hPair rest
    rw [hJoined] at h
    obtain hPrefix | hInfix := List.infix_cons_iff.1 h
    · rw [← hJoined] at hPrefix
      exact (prefix_of_prefix_joined hs hPrefix).isInfix
    · exact (ih hInfix).trans (List.suffix_append [p, q] rest).isInfix
  | case4 p q rest hPair ih =>
    have hJoined := joined_of_not_pair hPair rest
    rw [hJoined] at h
    obtain hPrefix | hInfix := List.infix_cons_iff.1 h
    · rw [← hJoined] at hPrefix
      exact (prefix_of_prefix_joined hs hPrefix).isInfix
    · exact (ih hInfix).trans (List.suffix_cons p _).isInfix

end Text

end Storefront
