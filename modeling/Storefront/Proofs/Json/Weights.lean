import Mathlib
import Storefront.Json.Reader
import Storefront.Proofs.Value.Reading
import Storefront.Text.Blank
import Storefront.Validation.Scalar

/-!
# What JSON adds to texts

A text in JSON stands in quotes, and its escapes are longer than what they stand for. So a text that is
read weighs less than what it was read from, where blanks and commas weigh nothing, and so do the texts
of a list together.

* `Text.weight`: the code points of a text without blanks and commas.
* `weight_of_readText`: a text in quotes, by induction over its code points.
* `weighs`: a value, and the items of a list, by induction over the readers.
* `leastWeight_of_read`, `weight_of_read_null`: a whole text.
* `exists_defect_of_not_isFirst`: texts in which no value begins.
-/

namespace Storefront

/-! ## Weights -/

namespace Text

/-- Whether a code point weighs something: blanks and commas do not. -/
def isHeavy (p : CodePoint) : Bool := !isBlank p && p != .char ','

/-- The number of code points that are neither blanks nor commas. -/
def weight (t : Text) : Nat := t.countP isHeavy

theorem weight_cons (p : CodePoint) (t : Text) :
    weight (p :: t) = weight t + if isHeavy p then 1 else 0 := List.countP_cons

theorem weight_cons_of_isHeavy {p : CodePoint} (h : isHeavy p = true) (t : Text) :
    weight (p :: t) = weight t + 1 := List.countP_cons_of_pos h

theorem weight_cons_le (p : CodePoint) (t : Text) : weight (p :: t) ≤ weight t + 1 := by
  rw [weight_cons]
  split <;> omega

theorem weight_le_cons (p : CodePoint) (t : Text) : weight t ≤ weight (p :: t) := by
  rw [weight_cons]
  omega

theorem weight_append (s t : Text) : weight (s ++ t) = weight s + weight t := List.countP_append

theorem weight_reverse (t : Text) : weight t.reverse = weight t := List.countP_reverse

theorem weight_le_of_suffix {s t : Text} (h : s <:+ t) : weight s ≤ weight t :=
  h.sublist.countP_le

theorem weight_eq_zero {t : Text} (h : ∀ p ∈ t, isHeavy p = false) : weight t = 0 := by
  rw [weight, List.countP_eq_zero]
  intro p hp
  rw [h p hp]
  exact Bool.false_ne_true

/-- What weighs nothing can be left out at the beginning of a text. -/
theorem weight_dropWhile {f : CodePoint → Bool} (h : ∀ p, f p = true → isHeavy p = false) (t : Text) :
    weight (t.dropWhile f) = weight t := by
  have hFront : weight (t.takeWhile f) = 0 :=
    weight_eq_zero fun p hp => h p (List.mem_takeWhile_imp hp)
  have hWhole : weight t = weight (t.takeWhile f) + weight (t.dropWhile f) := by
    rw [← weight_append, List.takeWhile_append_dropWhile]
  rw [hWhole, hFront, Nat.zero_add]

end Text

namespace Json

open Text (weight)

theorem isHeavy_of_isSpace {p : CodePoint} (h : isSpace p = true) : Text.isHeavy p = false := by
  simp only [isSpace, Bool.or_eq_true, beq_iff_eq] at h
  rcases h with ((rfl | rfl) | rfl) | rfl <;> decide

theorem weight_skipSpace (t : Text) : weight (skipSpace t) = weight t :=
  Text.weight_dropWhile (fun _ => isHeavy_of_isSpace) t

/-! ## Texts in quotes -/

/-- An escape leaves what stands behind its four digits, or behind those of a second half. -/
theorem suffix_of_readUnit {u rest : Text} {n : Nat} (h : readUnit u = .ok (n, rest)) : rest <:+ u := by
  rw [readUnit] at h
  split at h
  · split at h
    · cases h
    · cases h
      exact List.drop_suffix 5 u
  · cases h

theorem suffix_of_readUnicode {u rest : Text} {p : CodePoint} (h : readUnicode u = .ok (p, rest)) :
    rest <:+ u := by
  obtain ⟨⟨n, more⟩, hUnit, h⟩ := bind_eq_ok_iff.1 h
  have hMore := suffix_of_readUnit hUnit
  dsimp only at h
  split at h
  · rename_i second
    split at h
    · obtain ⟨⟨low, rest'⟩, hSecond, h⟩ := bind_eq_ok_iff.1 h
      have hRest : rest' <:+ .char '\\' :: .char 'u' :: second :=
        (suffix_of_readUnit hSecond).trans (List.suffix_cons _ _)
      dsimp only at h
      split at h
      · obtain ⟨-, rfl⟩ := Prod.mk.inj (Except.ok.inj h)
        exact hRest.trans hMore
      · obtain ⟨-, rfl⟩ := Prod.mk.inj (Except.ok.inj h)
        exact hMore
    · obtain ⟨-, rfl⟩ := Prod.mk.inj (Except.ok.inj h)
      exact hMore
  · obtain ⟨-, rfl⟩ := Prod.mk.inj (Except.ok.inj h)
    exact hMore

/-- The closing quote weighs something, and no code point weighs more than it was written with. -/
theorem weight_of_readPoints {opened : Text} {fuel : Nat} {read t s rest : Text}
    (h : readPoints opened fuel read t = .ok (s, rest)) :
    weight s + weight rest < weight read + weight t := by
  induction fuel generalizing read t with
  | zero => cases h
  | succ fuel ih =>
    unfold readPoints at h
    split at h
    · cases h
    · -- The closing quote.
      cases h
      rw [Text.weight_reverse, Text.weight_cons_of_isHeavy (by decide)]
      omega
    · rename_i escape
      rw [Text.weight_cons_of_isHeavy (by decide)]
      split at h
      · cases h
      · obtain ⟨⟨p, more⟩, hUnicode, h⟩ := bind_eq_ok_iff.1 h
        have hMore := Text.weight_le_of_suffix (suffix_of_readUnicode hUnicode)
        have hPoint := Text.weight_cons_le p read
        have hRest := ih h
        omega
      · rename_i p more _
        split at h
        · rename_i c _
          have hMore := Text.weight_le_cons p more
          have hPoint := Text.weight_cons_le (.char c) read
          have hRest := ih h
          omega
        · cases h
    · rename_i p more _ _
      split at h
      · cases h
      · have hRest := ih h
        rw [Text.weight_cons] at hRest ⊢
        omega

theorem weight_of_readText {t s rest : Text} (h : readText t = .ok (s, rest)) :
    weight s + weight rest < weight t := by
  simpa [Text.weight] using weight_of_readPoints h

/-! ## Numbers and words -/

theorem suffix_readDigits (t : Text) : (readDigits t).2 <:+ t := by
  fun_induction readDigits t with
  | case1 c rest hDigit ds more hMore ih =>
    rw [hMore] at ih
    exact ih.trans (List.suffix_cons _ _)
  | case2 | case3 => exact List.suffix_rfl

theorem suffix_of_readWhole {t rest : Text} {ds : List Char} (h : readWhole t = some (ds, rest)) :
    rest <:+ t := by
  unfold readWhole at h
  split at h
  · cases h
    exact List.suffix_cons _ _
  · dsimp only at h
    split at h
    · cases h
    · cases h
      exact suffix_readDigits t

theorem suffix_readPart (t : Text) : (readPart t).2 <:+ t := by
  unfold readPart
  split
  · dsimp only
    split
    · exact List.suffix_rfl
    · exact (suffix_readDigits _).trans (List.suffix_cons _ _)
  · exact List.suffix_rfl

theorem suffix_readSign (t : Text) : (readSign t).2 <:+ t := by
  unfold readSign
  split
  · exact List.suffix_cons _ _
  · exact List.suffix_cons _ _
  · exact List.suffix_rfl

theorem suffix_readPower (t : Text) : (readPower t).2 <:+ t := by
  unfold readPower
  split
  · split
    · dsimp only
      split
      · exact List.suffix_rfl
      · exact ((suffix_readDigits _).trans (suffix_readSign _)).trans (List.suffix_cons _ _)
    · exact List.suffix_rfl
  · exact List.suffix_rfl

/-- A number is an integer or a double, and leaves the end of the text. -/
theorem suffix_of_readNumber {t rest : Text} {v : Value} (h : readNumber t = .ok (v, rest)) :
    rest <:+ t ∧ ((∃ n, v = .int n) ∨ ∃ x, v = .float x) := by
  unfold readNumber at h
  split at h
  rename_i negative unsigned hSign
  have hUnsigned : unsigned <:+ t := by
    split at hSign
    · obtain ⟨-, rfl⟩ := Prod.mk.inj hSign
      exact List.suffix_cons _ _
    · obtain ⟨-, rfl⟩ := Prod.mk.inj hSign
      exact List.suffix_rfl
  split at h
  · cases h
  · rename_i whole afterWhole hWhole
    have hRest : (readPower (readPart afterWhole).2).2 <:+ t :=
      (suffix_readPower _).trans ((suffix_readPart _).trans ((suffix_of_readWhole hWhole).trans hUnsigned))
    dsimp only at h
    split at h
    · split at h
      · cases h
      · obtain ⟨rfl, rfl⟩ := Prod.mk.inj (Except.ok.inj h)
        exact ⟨hRest, .inl ⟨_, rfl⟩⟩
    · obtain ⟨rfl, rfl⟩ := Prod.mk.inj (Except.ok.inj h)
      exact ⟨hRest, .inr ⟨_, rfl⟩⟩

theorem eq_append_of_readWord? {t rest : Text} {v : Value} (h : readWord? t = some (v, rest)) :
    ∃ word, (word, v) ∈ words ∧ t = word ++ rest := by
  obtain ⟨w, hFound, hRead⟩ := Option.map_eq_some_iff.1 h
  obtain ⟨rfl, rfl⟩ := Prod.mk.inj hRead
  have hBegins : w.1.isPrefixOf t = true :=
    List.find?_some (p := fun w : Text × Value => w.1.isPrefixOf t) hFound
  obtain ⟨more, rfl⟩ := List.isPrefixOf_iff_prefix.1 hBegins
  refine ⟨w.1, List.mem_of_find?_eq_some hFound, ?_⟩
  rw [List.drop_left]

/-! ## Values -/

/-- What a value weighs that is taken for a text. -/
def textWeight (v : Value) : Nat := (Validation.text v).toOption.elim 0 weight

/-- What the texts of a list weigh together. -/
def listWeight (vs : List Value) : Nat := (vs.map textWeight).sum

/-- What the writing of a value weighs at least: a text itself and a quote, and a list its texts and a
bracket. -/
def leastWeight : Value → Nat
  | .text s => weight s + 1
  | .list vs => listWeight vs + 1
  | v => textWeight v

theorem textWeight_le (v : Value) : textWeight v ≤ leastWeight v := by
  cases v with
  | text s => exact Nat.le_succ _
  | list vs => exact Nat.zero_le _
  | _ => exact Nat.le_refl _

theorem listWeight_cons (v : Value) (vs : List Value) :
    listWeight (v :: vs) = textWeight v + listWeight vs := List.sum_cons

theorem listWeight_reverse (vs : List Value) : listWeight vs.reverse = listWeight vs := by
  rw [listWeight, List.map_reverse, List.sum_reverse, listWeight]

/-- What is read as items is a list, and what is read as fields is an object. -/
theorem exists_list_of_readItems {fuel depth : Nat} {read : List Value} {t rest : Text} {v : Value}
    (h : readItems fuel depth read t = .ok (v, rest)) : ∃ vs, v = .list vs := by
  induction fuel generalizing read t with
  | zero => cases h
  | succ fuel ih =>
    rw [readItems] at h
    obtain ⟨⟨item, more⟩, -, h⟩ := bind_eq_ok_iff.1 h
    dsimp only at h
    split at h
    · cases h
      exact ⟨_, rfl⟩
    · exact ih h
    · cases h

theorem exists_object_of_readFields {fuel depth : Nat} {read : Fields} {t rest : Text} {v : Value}
    (h : readFields fuel depth read t = .ok (v, rest)) : ∃ fields, v = .object fields := by
  induction fuel generalizing read t with
  | zero => cases h
  | succ fuel ih =>
    unfold readFields at h
    split at h
    · obtain ⟨⟨name, more⟩, -, h⟩ := bind_eq_ok_iff.1 h
      dsimp only at h
      split at h
      · obtain ⟨⟨value, more⟩, -, h⟩ := bind_eq_ok_iff.1 h
        dsimp only at h
        split at h
        · cases h
          exact ⟨_, rfl⟩
        · exact ih h
        · cases h
      · cases h
    · cases h

/-- The three readers call each other, so what their results weigh is shown of all of them at once. -/
structure Weighs (fuel : Nat) : Prop where
  value : ∀ {depth t v rest}, readValue fuel depth t = .ok (v, rest) →
    leastWeight v + weight rest ≤ weight t
  items : ∀ {depth read t v rest}, readItems fuel depth read t = .ok (v, rest) →
    leastWeight v + weight rest ≤ listWeight read + weight t
  fields : ∀ {depth read t v rest}, readFields fuel depth read t = .ok (v, rest) →
    leastWeight v + weight rest ≤ weight t

theorem leastWeight_of_readWord? {t rest : Text} {v : Value} (h : readWord? t = some (v, rest)) :
    leastWeight v + weight rest ≤ weight t := by
  obtain ⟨word, hWord, rfl⟩ := eq_append_of_readWord? h
  have hNone : ∀ w ∈ words, leastWeight w.2 = 0 := by
    intro w hw
    simp only [words, List.mem_cons, List.not_mem_nil, or_false] at hw
    obtain rfl | rfl | rfl | rfl | rfl | rfl := hw <;> rfl
  rw [hNone _ hWord, Text.weight_append]
  omega

theorem leastWeight_of_readNumber {t rest : Text} {v : Value} (h : readNumber t = .ok (v, rest)) :
    leastWeight v + weight rest ≤ weight t := by
  obtain ⟨hSuffix, hKind⟩ := suffix_of_readNumber h
  have hRest := Text.weight_le_of_suffix hSuffix
  obtain ⟨n, rfl⟩ | ⟨x, rfl⟩ := hKind
  · exact (Nat.zero_add _).trans_le hRest
  · exact (Nat.zero_add _).trans_le hRest

variable {fuel depth : Nat} {t rest : Text} {v : Value}

theorem Weighs.value_succ (ih : Weighs fuel) (h : readValue (fuel + 1) depth t = .ok (v, rest)) :
    leastWeight v + weight rest ≤ weight t := by
  unfold readValue at h
  split at h
  · obtain ⟨⟨s, more⟩, hText, h⟩ := bind_eq_ok_iff.1 h
    obtain ⟨rfl, rfl⟩ := Prod.mk.inj (Except.ok.inj h)
    have hWeight := weight_of_readText hText
    rw [Text.weight_cons_of_isHeavy (by decide), leastWeight]
    omega
  · rename_i inner
    rw [Text.weight_cons_of_isHeavy (by decide), ← weight_skipSpace inner]
    split at h
    · cases h
    · split at h
      · rename_i more hClosed
        obtain ⟨rfl, rfl⟩ := Prod.mk.inj (Except.ok.inj h)
        have hNone : leastWeight (.list []) = 1 := rfl
        rw [hClosed, Text.weight_cons_of_isHeavy (by decide), hNone]
        omega
      · have hItems := ih.items h
        have hNone : listWeight [] = 0 := rfl
        omega
  · rename_i inner
    rw [Text.weight_cons_of_isHeavy (by decide), ← weight_skipSpace inner]
    split at h
    · cases h
    · split at h
      · rename_i more hClosed
        obtain ⟨rfl, rfl⟩ := Prod.mk.inj (Except.ok.inj h)
        have hNone : leastWeight (.object []) = 0 := rfl
        rw [hClosed, Text.weight_cons_of_isHeavy (by decide), hNone]
        omega
      · exact Nat.le_succ_of_le (ih.fields h)
  · split at h
    · cases h
      exact leastWeight_of_readWord? ‹_›
    · exact leastWeight_of_readNumber h

theorem Weighs.items_succ (ih : Weighs fuel) {read : List Value}
    (h : readItems (fuel + 1) depth read t = .ok (v, rest)) :
    leastWeight v + weight rest ≤ listWeight read + weight t := by
  unfold readItems at h
  obtain ⟨⟨item, more⟩, hItem, h⟩ := bind_eq_ok_iff.1 h
  have hFirst := ih.value hItem
  have hText := textWeight_le item
  rw [← weight_skipSpace more] at hFirst
  dsimp only at h
  split at h
  · rename_i closed hClosed
    obtain ⟨rfl, rfl⟩ := Prod.mk.inj (Except.ok.inj h)
    rw [hClosed, Text.weight_cons_of_isHeavy (by decide)] at hFirst
    rw [leastWeight, listWeight_reverse, listWeight_cons]
    omega
  · rename_i others hComma
    have hOthers := ih.items h
    have hLight := Text.weight_le_cons (.char ',') others
    rw [weight_skipSpace, listWeight_cons] at hOthers
    rw [hComma] at hFirst
    omega
  · cases h

theorem Weighs.fields_succ (ih : Weighs fuel) {read : Fields}
    (h : readFields (fuel + 1) depth read t = .ok (v, rest)) :
    leastWeight v + weight rest ≤ weight t := by
  obtain ⟨fields, rfl⟩ := exists_object_of_readFields h
  have hObject : leastWeight (.object fields) = 0 := rfl
  unfold readFields at h
  split at h
  · rename_i quoted
    obtain ⟨⟨name, behindName⟩, hName, h⟩ := bind_eq_ok_iff.1 h
    have hNameWeight := weight_of_readText hName
    have hQuote := Text.weight_le_cons (.char '"') quoted
    rw [← weight_skipSpace behindName] at hNameWeight
    dsimp only at h
    split at h
    · rename_i behindColon hColon
      obtain ⟨⟨value, behindValue⟩, hValue, h⟩ := bind_eq_ok_iff.1 h
      have hValueWeight := ih.value hValue
      have hLight := Text.weight_le_cons (.char ':') behindColon
      rw [weight_skipSpace, ← weight_skipSpace behindValue] at hValueWeight
      rw [hColon] at hNameWeight
      dsimp only at h
      split at h
      · rename_i closed hClosed
        obtain ⟨-, rfl⟩ := Prod.mk.inj (Except.ok.inj h)
        have hLast := Text.weight_le_cons (.char '\x7d') closed
        rw [hClosed] at hValueWeight
        omega
      · rename_i others hComma
        have hOthers := ih.fields h
        have hLast := Text.weight_le_cons (.char ',') others
        rw [weight_skipSpace] at hOthers
        rw [hComma] at hValueWeight
        omega
      · cases h
    · cases h
  · cases h

theorem weighs (fuel : Nat) : Weighs fuel := by
  induction fuel with
  | zero => exact ⟨nofun, nofun, nofun⟩
  | succ fuel ih => exact ⟨ih.value_succ, ih.items_succ, ih.fields_succ⟩

/-- Null is read from its word only. -/
theorem eq_append_of_readValue_null (h : readValue fuel depth t = .ok (.null, rest)) :
    t = Text.ofString "null" ++ rest := by
  cases fuel with
  | zero => cases h
  | succ fuel =>
    unfold readValue at h
    split at h
    · obtain ⟨_, -, h⟩ := bind_eq_ok_iff.1 h
      cases h
    · split at h
      · cases h
      · split at h
        · cases h
        · obtain ⟨vs, hList⟩ := exists_list_of_readItems h
          cases hList
    · split at h
      · cases h
      · split at h
        · cases h
        · obtain ⟨fields, hObject⟩ := exists_object_of_readFields h
          cases hObject
    · split at h
      · rename_i hWord
        cases h
        obtain ⟨word, hMem, rfl⟩ := eq_append_of_readWord? hWord
        simp only [words, List.mem_cons, Prod.mk.injEq, reduceCtorEq, and_true, and_false, or_false,
          List.not_mem_nil] at hMem
        rw [hMem]
      · obtain ⟨-, ⟨n, hNumber⟩ | ⟨x, hNumber⟩⟩ := suffix_of_readNumber h
        · cases hNumber
        · cases hNumber

/-! ## Whole texts -/

theorem exists_readValue_of_read (h : read t = .ok v) :
    ∃ fuel depth rest, readValue fuel depth (skipSpace t) = .ok (v, rest) ∧ skipSpace rest = [] := by
  rw [read, readWithin] at h
  dsimp only at h
  split at h
  · rename_i value hOutcome
    cases h
    obtain ⟨⟨value, rest⟩, hValue, hRest⟩ := bind_eq_ok_iff.1 hOutcome
    dsimp only at hRest
    split at hRest
    · cases hRest
      exact ⟨_, _, rest, hValue, ‹_›⟩
    · cases hRest
  · cases h
  · cases h
  · cases h

/-- A text that is read, and the texts of a list, weigh less than what they were read from. -/
theorem leastWeight_of_read (h : read t = .ok v) : leastWeight v ≤ weight t := by
  obtain ⟨fuel, depth, rest, hValue, -⟩ := exists_readValue_of_read h
  have hWeight := (weighs fuel).value hValue
  rw [weight_skipSpace] at hWeight
  omega

theorem weight_of_read_null (h : read t = .ok .null) : weight t = 4 := by
  obtain ⟨fuel, depth, rest, hValue, hRest⟩ := exists_readValue_of_read h
  have hWord : weight (Text.ofString "null") = 4 := by decide
  rw [← weight_skipSpace, eq_append_of_readValue_null hValue, Text.weight_append, hWord,
    ← weight_skipSpace rest, hRest]
  rfl

/-! ## Beginnings -/

/-- Whether a value can begin with a code point: a quote, a bracket, a brace, a sign, a digit, or the
first letter of a word. -/
def isFirst (p : CodePoint) : Bool :=
  p.isDigit || ['"', '[', '\x7b', '-', 'n', 't', 'f', 'N', 'I'].any (p == .char ·)

variable {p : CodePoint}

theorem readDigits_of_not_isDigit (h : p.isDigit = false) : readDigits (p :: t) = ([], p :: t) := by
  cases p with
  | char c =>
    have hDigit : c.isDigit = false := h
    rw [readDigits, hDigit, if_neg Bool.false_ne_true]
  | half n => rfl

theorem readNumber_of_not_isFirst (h : isFirst p = false) :
    readNumber (p :: t) = fail .expectingValue (p :: t) := by
  simp only [isFirst, Bool.or_eq_false_iff, List.any_cons, beq_eq_false_iff_ne] at h
  obtain ⟨hDigit, -, -, -, hSign, -⟩ := h
  have hZero : p ≠ .char '0' := by
    rintro rfl
    cases hDigit
  have hWhole : readWhole (p :: t) = none := by
    unfold readWhole
    split
    · rename_i hText
      exact absurd (List.cons.inj hText).1 hZero
    · rw [readDigits_of_not_isDigit hDigit]
      rfl
  unfold readNumber
  split
  rename_i negative unsigned hRead
  have hUnsigned : unsigned = p :: t := by
    split at hRead
    · rename_i hText
      exact absurd (List.cons.inj hText).1 hSign
    · exact (Prod.mk.inj hRead).2.symm
  rw [hUnsigned, hWhole]

theorem readWord?_of_not_isFirst (h : isFirst p = false) : readWord? (p :: t) = none := by
  rw [readWord?, Option.map_eq_none_iff, List.find?_eq_none]
  intro w hw hBegins
  obtain ⟨more, hText⟩ := List.isPrefixOf_iff_prefix.1 hBegins
  simp only [words, List.mem_cons, List.not_mem_nil, or_false] at hw
  obtain rfl | rfl | rfl | rfl | rfl | rfl := hw <;>
    (obtain ⟨rfl, -⟩ := List.cons.inj hText; cases h)

theorem readValue_of_not_isFirst (h : isFirst p = false) :
    readValue (fuel + 1) depth (p :: t) = fail .expectingValue (p :: t) := by
  unfold readValue
  split
  case h_4 =>
    rw [readWord?_of_not_isFirst h]
    exact readNumber_of_not_isFirst h
  all_goals
    rename_i hText
    obtain ⟨rfl, -⟩ := List.cons.inj hText
    exact absurd h (by decide)

theorem exists_defect_of_not_isFirst (h : isFirst p = false) (ht : skipSpace t = p :: rest) :
    ∃ d, read t = .error (.malformed d) := by
  rw [read, readWithin, ht]
  dsimp only
  rw [readValue_of_not_isFirst h]
  exact ⟨_, rfl⟩

end Json

end Storefront
