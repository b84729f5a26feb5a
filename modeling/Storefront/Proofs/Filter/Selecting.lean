import Mathlib
import Storefront.Catalog
import Storefront.Proofs.Filter.Building
import Storefront.Proofs.Filter.Reading
import Storefront.Proofs.Number.Order

/-!
# What the filter of a selection selects

The filter of a selection is read back and evaluated on what is stored for a product.

* `Selection.read?_filter`: its text reads as the condition on codes and price that is meant.
* `Selection.filter_holds_iff_admits`: on the vector of a product it holds exactly when the
  selection admits the product.
* `Selection.not_filter_holds_iff_admits_metadata`: on the metadata of a product it does not.
* `Selection.filter_fails_on_metadata`: there it never holds, because colors and sizes are stored by
  name and the filter asks for codes.
-/

namespace Storefront.Selection

open Storefront.Filter

/-- Whether a selection is meant to find a product. -/
def Admits (s : Selection) (p : Product) : Prop :=
  p.color ∈ s.colors ∧ p.size ∈ s.sizes ∧
    s.price.low.amount.le p.price.amount = true ∧ p.price.amount.le s.price.high = true

instance (s : Selection) (p : Product) : Decidable (s.Admits p) :=
  inferInstanceAs (Decidable (_ ∧ _ ∧ _ ∧ _))

/-- The components of a product's vector under the names that filters use for them. -/
def vectorRecord : Value → Value
  | .list [color, size, price] => .object [("color", color), ("size", size), ("price", price)]
  | _ => .null

/-! ## The condition that is meant -/

/-- The attribute has this code. -/
def codeCondition (a : Attribute) (n : Nat) : Condition :=
  .compare ⟨a.name, .eq, .number (Numeral.ofInt n)⟩

/-- The attribute has one of these codes; without codes a condition that does not hold of numbers
and names. -/
def codesCondition (a : Attribute) : List Nat → Condition
  | [] => .compare ⟨a.name, .eq, .text []⟩
  | n :: more => Condition.joined .or (codeCondition a n) (more.map (codeCondition a))

/-- The price lies between two numerals. -/
def priceCondition (low high : Numeral) : Condition :=
  .and (.compare ⟨"price", .ge, .number low⟩) (.compare ⟨"price", .le, .number high⟩)

/-- The condition of a selection whose price range is written with these numerals. -/
def condition (s : Selection) (low high : Numeral) : Condition :=
  .and (codesCondition .color (s.colors.map Color.code))
    (.and (codesCondition .size (s.sizes.map Size.code)) (priceCondition low high))

/-! ## Reading the filter -/

theorem isName_attribute (a : Attribute) : isName a.name = true := by
  cases a <;> decide

theorem isAtom_matchNothing (a : Attribute) :
    IsAtom (matchNothing a.name) (codesCondition a []) := by
  have hText : matchNothing a.name = Expression.clause a.name .eq (textLiteral []) := by
    simp [matchNothing, Expression.clause, textLiteral, Text.ofString, Text.ofChars,
      Operator.symbol, escape]
  rw [hText]
  exact isAtom_clause (isName_attribute a) .eq (isLiteral_text [])

theorem isAtom_codeClauses (a : Attribute) (codes : List Nat) :
    IsAtom (Expression.renderGroup (codeClauses a codes)) (codesCondition a codes) := by
  cases codes with
  | nil =>
    have hText : Expression.renderGroup (codeClauses a []) = "(" ++ matchNothing a.name ++ ")" := by
      simp [Expression.renderGroup, codeClauses, Text.join]
    rw [hText]
    exact (isAtom_matchNothing a).requirements.alternatives.group
  | cons n more =>
    have hClauses : ∀ k ∈ n :: more,
        IsRequirements (Expression.clause a.name .eq (toString k)) (codeCondition a k) :=
      fun k _ => (isAtom_clause (isName_attribute a) .eq (isLiteral_int k)).requirements
    have hJoined := join_induction (P := IsRequirements) (Q := IsAlternatives)
      IsRequirements.alternatives IsRequirements.or _ _ n more hClauses
    exact hJoined.group

theorem isAtom_priceClause {r : PriceRange} {low high : Numeral}
    (hLow : IsLiteral (doubleLiteral r.low.amount) (.number low))
    (hHigh : IsLiteral (doubleLiteral r.high) (.number high)) :
    IsAtom (Expression.renderGroup [priceClause r]) (priceCondition low high) := by
  have hText : Expression.renderGroup [priceClause r] = "(" ++ priceClause r ++ ")" := by
    simp [Expression.renderGroup, Text.join]
  have hName : isName "price" = true := by decide
  rw [hText]
  exact ((isAtom_clause hName .ge hLow).and
    (isAtom_clause hName .le hHigh).requirements).alternatives.group

/-- The numeral reads to a double of the same value as `x`. -/
def ReadsTo (n : Numeral) (x : Binary64) : Prop :=
  n.toBinary64.isFinite = true ∧ n.toBinary64.units = x.units

/-- The filter reads as the condition that is meant, with numerals for the bounds of the price. -/
theorem read?_filter (s : Selection) :
    ∃ low high, Condition.read? s.filter.render = some (s.condition low high) ∧
      ReadsTo low s.price.low.amount ∧ ReadsTo high s.price.high := by
  have hFinite := Binary64.isFinite_of_le s.price.low.nonneg s.price.low_le_high
    s.price.high_finite
  obtain ⟨low, hLow, hLowReads⟩ := isLiteral_double hFinite
  obtain ⟨high, hHigh, hHighReads⟩ := isLiteral_double s.price.high_finite
  refine ⟨low, high, ?_, hLowReads, hHighReads⟩
  have hText : s.filter.render
      = Expression.renderGroup (codeClauses .color (s.colors.map Color.code)) ++ " AND "
        ++ (Expression.renderGroup (codeClauses .size (s.sizes.map Size.code)) ++ " AND "
          ++ Expression.renderGroup [priceClause s.price]) := by
    simp [Expression.render, filter, Text.join]
  rw [hText]
  have hPrice := isAtom_priceClause hLow hHigh
  exact ((isAtom_codeClauses .color _).and
    ((isAtom_codeClauses .size _).and hPrice.requirements)).alternatives.read?

/-! ## Evaluating the condition -/

variable {a : Attribute} {record : Value} {codes : List Nat}

theorem holds_compare_number {field : Text} {v : Value} {x : Binary64}
    (hField : record.field? field = some v) (hNumber : numberIn? v = some x) (o : Operator)
    (n : Numeral) :
    (Condition.compare ⟨field, o, .number n⟩).holds record = o.relates x n.toBinary64 := by
  rw [Condition.holds, hField, Option.map_some, Option.getD_some, Comparison.holdsOf]
  simp only [hNumber]

theorem holds_codeCondition_iff {n k : Nat} (hField : record.field? a.name = some (.int n))
    (hn : n < 10) (hk : k < 10) : (codeCondition a k).holds record = true ↔ n = k := by
  obtain ⟨x, hx, -, -⟩ := Binary64.ofInt?_of_small (n := (n : Int)) (by omega)
  have hNumber : numberIn? (.int n) = some x := by
    rw [numberIn?]
    exact hx
  have hEq := Binary64.numEq_ofInt_iff (a := (n : Int)) (b := (k : Int)) (by omega) (by omega) hx
  rw [codeCondition, holds_compare_number hField hNumber, Operator.relates, hEq]
  exact Nat.cast_inj

theorem holds_codesCondition_of_int {n : Nat} (hField : record.field? a.name = some (.int n))
    (hn : n < 10) (hCodes : ∀ k ∈ codes, k < 10) :
    (codesCondition a codes).holds record = true ↔ n ∈ codes := by
  cases codes with
  | nil => simp [codesCondition, Condition.holds, hField, Comparison.holdsOf]
  | cons k more =>
    rw [codesCondition, Condition.holds_joined_or, ← List.map_cons]
    simp only [List.any_map, List.any_eq_true, Function.comp_apply]
    constructor
    · rintro ⟨j, hj, hHolds⟩
      rw [(holds_codeCondition_iff hField hn (hCodes j hj)).1 hHolds]
      exact hj
    · intro hMem
      exact ⟨n, hMem, (holds_codeCondition_iff hField hn hn).2 rfl⟩

theorem holds_codesCondition_of_text {t : Text} (hField : record.field? a.name = some (.text t))
    (ht : t ≠ []) : (codesCondition a codes).holds record = false := by
  have hCode : ∀ k, (codeCondition a k).holds record = false := by
    intro k
    rw [codeCondition, Condition.holds, hField]
    rfl
  cases codes with
  | nil => simp [codesCondition, Condition.holds, hField, Comparison.holdsOf, ht]
  | cons k more =>
    rw [codesCondition, Condition.holds_joined_or, ← List.map_cons]
    simp only [List.any_map, Function.comp_def, hCode, List.any_eq_false]
    exact fun j _ => Bool.false_ne_true

theorem holds_priceCondition {x : Binary64} (hField : record.field? "price" = some (.float x))
    {r : PriceRange} {low high : Numeral} (hLow : ReadsTo low r.low.amount)
    (hHigh : ReadsTo high r.high) :
    (priceCondition low high).holds record = (r.low.amount.le x && x.le r.high) := by
  have hLowFinite := Binary64.isFinite_of_le r.low.nonneg r.low_le_high r.high_finite
  rw [← (Binary64.le_of_units hLow.1 hLowFinite hLow.2 x).1,
    ← (Binary64.le_of_units hHigh.1 r.high_finite hHigh.2 x).2]
  have hNumber : numberIn? (.float x) = some x := rfl
  rw [priceCondition, Condition.holds, holds_compare_number hField hNumber,
    holds_compare_number hField hNumber, Operator.relates, Operator.relates]

/-! ## Stored vectors -/

theorem code_color_injective : Function.Injective Color.code := by
  intro c d h
  cases c <;> cases d <;> first | rfl | cases h

theorem code_size_injective : Function.Injective Size.code := by
  intro x y h
  cases x <;> cases y <;> first | rfl | cases h

theorem code_color_lt (c : Color) : c.code < 10 := by
  cases c <;> decide

theorem code_size_lt (x : Size) : x.code < 10 := by
  cases x <;> decide

theorem holds_condition_vector {s : Selection} {low high : Numeral}
    (hLow : ReadsTo low s.price.low.amount) (hHigh : ReadsTo high s.price.high) (p : Product) :
    (s.condition low high).holds (vectorRecord p.toRecord.vector) = true ↔ s.Admits p := by
  have hColors : (codesCondition .color (s.colors.map Color.code)).holds
      (vectorRecord p.toRecord.vector) = true ↔ p.color.code ∈ s.colors.map Color.code :=
    holds_codesCondition_of_int rfl (code_color_lt p.color) (by simp [code_color_lt])
  have hSizes : (codesCondition .size (s.sizes.map Size.code)).holds
      (vectorRecord p.toRecord.vector) = true ↔ p.size.code ∈ s.sizes.map Size.code :=
    holds_codesCondition_of_int rfl (code_size_lt p.size) (by simp [code_size_lt])
  have hPrice : (priceCondition low high).holds (vectorRecord p.toRecord.vector) =
      (s.price.low.amount.le p.price.amount && p.price.amount.le s.price.high) :=
    holds_priceCondition rfl hLow hHigh
  rw [List.mem_map_of_injective code_color_injective] at hColors
  rw [List.mem_map_of_injective code_size_injective] at hSizes
  rw [condition, Condition.holds, Condition.holds, Bool.and_eq_true, Bool.and_eq_true, hColors,
    hSizes, hPrice, Bool.and_eq_true, Admits]

theorem holds_condition_metadata (s : Selection) (low high : Numeral) (p : Product) :
    (s.condition low high).holds p.toRecord.metadata = false := by
  have hColors : (codesCondition .color (s.colors.map Color.code)).holds
      p.toRecord.metadata = false :=
    holds_codesCondition_of_text (t := p.color.name) rfl (by cases p.color <;> decide)
  rw [condition, Condition.holds, hColors, Bool.false_and]

/-- A shirt of the default catalog. -/
def blueShirt : Product := Catalog.product .blue .medium 1 (Price.ofCents 1999)

/-- A selection that is meant to find the shirt. -/
def blueShirts : Selection where
  colors := [.blue]
  sizes := [.medium]
  price := ⟨Price.ofCents 1000, Binary64.nearest false 50 1, by decide +kernel, by decide +kernel⟩
  sort := .unordered

/-- The filter misses a shirt that its selection is meant to find. -/
theorem not_filter_holds_iff_admits_metadata :
    blueShirts.Admits blueShirt ∧
      ∃ c, Condition.read? blueShirts.filter.render = some c ∧
        c.holds blueShirt.toRecord.metadata = false := by
  obtain ⟨low, high, hRead, -, -⟩ := read?_filter blueShirts
  exact ⟨by decide +kernel, _, hRead, holds_condition_metadata blueShirts low high blueShirt⟩

/-- The filter holds of the metadata of no product, because names are stored there and not codes.
So it is right exactly about the products that the selection is not meant to find. -/
theorem filter_fails_on_metadata (s : Selection) (p : Product) :
    ∃ c, Condition.read? s.filter.render = some c ∧ c.holds p.toRecord.metadata = false ∧
      ((c.holds p.toRecord.metadata = true ↔ s.Admits p) ↔ ¬ s.Admits p) := by
  obtain ⟨low, high, hRead, -, -⟩ := read?_filter s
  have hHolds := holds_condition_metadata s low high p
  refine ⟨s.condition low high, hRead, hHolds, ?_⟩
  rw [hHolds]
  simp

end Storefront.Selection
