import Mathlib
import Storefront.Proofs.Number.Order
import Storefront.Proofs.Validation.Checked
import Storefront.Selection

/-!
# Payloads that are accepted

Of the values of JSON exactly the documented payloads are read as selections.

* `Selection.Documents`: the fields of a payload as they are documented, and what they say.
* `Selection.ofFields_eq_ok_iff`: reading the fields takes them apart into four checks and the order
  of the bounds.
* `Selection.parse_accepts_iff_documents`: the payloads that are accepted, what is read from them,
  and that a selection is read back from the payload that shows it.
-/

namespace Storefront.Selection

open Storefront.Validation (Checked)

/-! ## First occurrences -/

section

variable {α : Type} [DecidableEq α]

theorem filter_firstOccurrences (p : α → Bool) (as : List α) :
    (firstOccurrences as).filter p = firstOccurrences (as.filter p) := by
  induction as with
  | nil => rfl
  | cons a as ih =>
    cases hp : p a with
    | false =>
      have hNe : ∀ b ∈ firstOccurrences as, (p b && decide (b ≠ a)) = p b := by
        intro b _
        by_cases hb : b = a
        · rw [hb, hp, Bool.false_and]
        · rw [decide_eq_true hb, Bool.and_true]
      rw [firstOccurrences, List.filter_cons_of_neg (by simp [hp]),
        List.filter_cons_of_neg (by simp [hp]), List.filter_filter, List.filter_congr hNe, ih]
    | true =>
      rw [firstOccurrences, List.filter_cons_of_pos hp, List.filter_cons_of_pos hp,
        firstOccurrences, List.filter_comm, ih]

theorem firstOccurrences_idem (as : List α) :
    firstOccurrences (firstOccurrences as) = firstOccurrences as := by
  induction as with
  | nil => rfl
  | cons a as ih =>
    rw [firstOccurrences, firstOccurrences, ← filter_firstOccurrences, ih, List.filter_filter]
    simp

theorem firstOccurrences_eq_eraseDups (as : List α) : firstOccurrences as = as.eraseDups := by
  induction hLength : as.length using Nat.strong_induction_on generalizing as with
  | _ n ih =>
    cases as with
    | nil => rfl
    | cons a as =>
      have hFewer : (as.filter (· ≠ a)).length < n := by
        have := List.length_filter_le (· ≠ a) as
        rw [List.length_cons] at hLength
        omega
      have hSame : as.filter (fun b => !b == a) = as.filter (· ≠ a) :=
        List.filter_congr fun b _ => (decide_not (p := b = a)).symm
      rw [firstOccurrences, filter_firstOccurrences, ih _ hFewer _ rfl, List.eraseDups_cons, hSame]

end

/-! ## Names -/

section

variable {α : Type} [DecidableEq α] {all : List α} {name : α → String}

theorem member_color (c : Color) :
    Validation.member Color.all Color.name (.text c.name) = .ok c := by
  cases c <;> rfl

theorem member_size (x : Size) : Validation.member Size.all Size.name (.text x.name) = .ok x := by
  cases x <;> rfl

theorem member_sortMode (m : SortMode) :
    Validation.member SortMode.all SortMode.name (.text m.name) = .ok m := by
  cases m <;> rfl

theorem names_given (hName : ∀ a, Validation.member all name (.text (name a)) = .ok a)
    (given : List α) :
    names all name (.list (given.map fun a => .text (name a))) = .ok (firstOccurrences given) := by
  have hItems : Checked.items (fun item => Checked.ofFlaw (Validation.member all name item))
      (given.map fun a => .text (name a)) = .ok given := by
    refine Checked.items_eq_ok_iff.2 ?_
    rw [List.forall₂_map_left_iff, List.forall₂_same]
    intro a _
    exact Checked.ofFlaw_eq_ok_iff.2 (hName a)
  rw [names, hItems]
  rfl

omit [DecidableEq α] in
theorem eq_map_of_members {items : List Value} (hJson : ∀ item ∈ items, item.isJson = true)
    {given : List α}
    (h : List.Forall₂ (fun item a => Validation.member all name item = .ok a) items given) :
    items = given.map fun a => .text (name a) := by
  induction h with
  | nil => rfl
  | cons hMember _ ih =>
    rw [List.map_cons, ← ih fun item hItem => hJson item (List.mem_cons_of_mem _ hItem),
      Validation.eq_text_of_member (hJson _ List.mem_cons_self) hMember]

theorem given_of_names {v : Value} (hJson : v.isJson = true) {as : List α}
    (h : names all name v = .ok as) :
    ∃ given : List α, v = .list (given.map fun a => .text (name a)) ∧
      as = firstOccurrences given := by
  cases v with
  | list items =>
    rw [names] at h
    cases hItems : Checked.items (fun item => Checked.ofFlaw (Validation.member all name item))
        items with
    | error issues =>
      rw [hItems] at h
      cases h
    | ok given =>
      rw [hItems] at h
      injection h with h
      refine ⟨given, ?_, h.symm⟩
      rw [← eq_map_of_members (fun item hItem => Value.isJson_of_mem hJson hItem)
        ((Checked.items_eq_ok_iff.1 hItems).imp fun _ _ => Checked.ofFlaw_eq_ok_iff.1)]
  | _ => cases h

end

/-! ## The price range -/

/-- The finite double that a number in a payload stands for; truth values are no numbers. -/
def finiteNumber? : Value → Option Binary64
  | .int n => Binary64.ofInt? n
  | .float x => if x.isFinite then some x else none
  | _ => none

theorem isFinite_of_finiteNumber? {v : Value} {x : Binary64} (h : finiteNumber? v = some x) :
    x.isFinite = true := by
  cases v with
  | int n => exact Binary64.isFinite_of_ofInt? h
  | float y =>
    rw [finiteNumber?] at h
    split at h
    · injection h with h
      rwa [← h]
    · cases h
  | _ => cases h

theorem finiteBound?_eq_some_iff {x : Binary64} {b : Bound} :
    finiteBound? x = some b ↔ x = b.val := by
  obtain ⟨y, hy⟩ := b
  unfold finiteBound?
  split
  · rw [Option.some.injEq, Subtype.mk.injEq]
  · rename_i hx
    constructor
    · intro h
      cases h
    · rintro rfl
      exact absurd hy hx

theorem checkBound_eq_accepted_iff {v : Value} {b : Bound} :
    checkBound v = .accepted b ↔ finiteNumber? v = some b.val := by
  cases v with
  | int n =>
    rw [checkBound, finiteNumber?]
    cases Binary64.ofInt? n with
    | none => simp
    | some x =>
      rw [Option.bind_some, Option.some.injEq, ← finiteBound?_eq_some_iff]
      cases finiteBound? x <;> simp
  | float x =>
    rw [checkBound, finiteNumber?]
    by_cases hx : x.isFinite = true
    · rw [if_pos hx, Option.some.injEq, ← finiteBound?_eq_some_iff]
      cases finiteBound? x <;> simp
    · simp [finiteBound?, hx]
  | _ => simp [checkBound, finiteNumber?]

theorem checkBounds_eq_accepted_iff {v : Value} {low high : Bound} :
    checkBounds v = .accepted (low, high) ↔
      ∃ a b, v = .list [a, b] ∧ finiteNumber? a = some low.val ∧
        finiteNumber? b = some high.val := by
  simp only [← checkBound_eq_accepted_iff]
  constructor
  · intro h
    unfold checkBounds at h
    split at h
    · rename_i a b
      split at h
      · cases h
      · cases h
      · rename_i hLow
        split at h
        · cases h
        · cases h
        · rename_i hHigh
          injection h with h
          injection h with h₁ h₂
          exact ⟨a, b, rfl, h₁ ▸ hLow, h₂ ▸ hHigh⟩
    · cases h
  · rintro ⟨a, b, rfl, hLow, hHigh⟩
    rw [checkBounds, hLow]
    simp only [hHigh]

theorem priceField_eq_ok_iff {fields : Fields} {bounds : Bound × Bound} :
    priceField fields = some (.ok bounds) ↔
      ∃ v, fields.get? "price" = some v ∧ checkBounds v = .accepted bounds := by
  unfold priceField
  cases fields.get? "price" with
  | none => simp
  | some v =>
    cases hBounds : checkBounds v <;> simp [hBounds]

theorem rangeOf_eq_ok_iff {low high : Bound} {r : PriceRange} :
    rangeOf low high = .ok r ↔ r.low.amount = low.val ∧ r.high = high.val := by
  constructor
  · intro h
    unfold rangeOf at h
    split at h
    · split at h
      · injection h with h
        rw [← h]
        exact ⟨rfl, rfl⟩
      · cases h
    · cases h
  · obtain ⟨⟨amount, hNonneg⟩, top, hOrder, hFinite⟩ := r
    rintro ⟨hLow, hHigh⟩
    dsimp only at hLow hHigh hOrder
    subst hLow hHigh
    rw [rangeOf, dif_pos hNonneg, dif_pos hOrder]

/-! ## Fields -/

/-- The fields make a selection exactly when each of them passes and the bounds make a range. -/
theorem ofFields_eq_ok_iff {fields : Fields} {s : Selection} :
    ofFields fields = .ok s ↔
      Checked.required fields "color" (names Color.all Color.name) = .ok s.colors ∧
      Checked.required fields "size" (names Size.all Size.name) = .ok s.sizes ∧
      (∃ low high, priceField fields = some (.ok (low, high)) ∧
        rangeOf low high = .ok s.price) ∧
      Checked.required fields "sort" (fun v =>
        Checked.ofFlaw (Validation.member SortMode.all SortMode.name v)) = .ok s.sort := by
  constructor
  · intro h
    unfold ofFields at h
    split at h
    · cases h
    · rename_i bounds hPrice
      dsimp only at h
      split at h
      · cases h
      · rename_i colors sizes low high sort hParts
        split at h
        · rename_i price hRange
          injection h with h
          subst h
          obtain ⟨_, _, hUpToBounds, hSort, hParts⟩ := Checked.ap_eq_ok_iff.1 hParts
          obtain ⟨_, _, hUpToSizes, hBounds, rfl⟩ := Checked.ap_eq_ok_iff.1 hUpToBounds
          obtain ⟨_, _, hUpToColors, hSizes, rfl⟩ := Checked.ap_eq_ok_iff.1 hUpToSizes
          obtain ⟨_, _, hPairing, hColors, rfl⟩ := Checked.ap_eq_ok_iff.1 hUpToColors
          injection hPairing with hPairing
          subst hPairing
          simp only [Prod.mk.injEq] at hParts
          obtain ⟨rfl, rfl, rfl, rfl⟩ := hParts
          exact ⟨hColors, hSizes, ⟨low, high, by rw [hPrice, hBounds], hRange⟩, hSort⟩
        · cases h
  · rintro ⟨hColors, hSizes, ⟨low, high, hPrice, hRange⟩, hSort⟩
    unfold ofFields
    rw [hPrice]
    simp only [Attribute.name, hColors, hSizes, hSort, Checked.ap, hRange]

/-! ## Unknown names -/

/-- No text in the list of an attribute is an unknown name. -/
def NamesKnown (a : Attribute) (fields : Fields) : Prop :=
  ∀ items, fields.get? a.name = some (.list items) →
    ∀ t, Value.text t ∈ items → (a.codeOf? t).isSome = true

theorem firstUnknown?_eq_none_iff {a : Attribute} {fields : Fields} :
    firstUnknown? a (.object fields) = none ↔ NamesKnown a fields := by
  unfold firstUnknown? NamesKnown
  rw [Value.field?]
  cases fields.get? a.name with
  | none => simp
  | some v =>
    cases v with
    | list items =>
      dsimp only
      rw [List.findSome?_eq_none_iff]
      constructor
      · intro h others hOthers t ht
        injection hOthers with hOthers
        injection hOthers with hOthers
        have hNone := h (.text t) (hOthers ▸ ht)
        cases hCode : a.codeOf? t with
        | none => simp [hCode] at hNone
        | some n => rfl
      · intro h v hv
        cases v with
        | text t =>
          obtain ⟨n, hn⟩ := Option.isSome_iff_exists.1 (h items rfl t hv)
          simp [hn]
        | _ => rfl
    | _ => simp

theorem parse_object_of_known {fields : Fields} (hColor : NamesKnown .color fields)
    (hSize : NamesKnown .size fields) : parse (.object fields) = ofFields fields := by
  rw [parse, firstUnknown?_eq_none_iff.2 hColor, firstUnknown?_eq_none_iff.2 hSize]
  rfl

theorem exists_ofFields_of_parse {payload : Value} {s : Selection} (h : parse payload = .ok s) :
    ∃ fields, payload = .object fields ∧ ofFields fields = .ok s := by
  cases payload with
  | object fields =>
    rw [parse] at h
    split at h
    · cases h
    · exact ⟨fields, rfl, h⟩
  | _ => cases h

theorem namesKnown_of_given {a : Attribute} {α : Type} {name : α → String}
    (hName : ∀ x, (a.codeOf? (name x)).isSome = true) {fields : Fields} (given : List α)
    (h : fields.get? a.name = some (.list (given.map fun x => .text (name x)))) :
    NamesKnown a fields := by
  intro items hItems t ht
  have hGet := hItems.symm.trans h
  injection hGet with hGet
  injection hGet with hGet
  rw [hGet] at ht
  obtain ⟨x, -, hText⟩ := List.mem_map.1 ht
  injection hText with hText
  rw [← hText]
  exact hName x

theorem isSome_codeOf?_color (c : Color) : (Attribute.color.codeOf? c.name).isSome = true := by
  cases c <;> rfl

theorem isSome_codeOf?_size (x : Size) : (Attribute.size.codeOf? x.name).isSome = true := by
  cases x <;> rfl

/-! ## Documented payloads -/

/-- The fields of a payload as they are documented, with what they say: names in lists, two finite
numbers of which the first is no less than zero and no more than the second, and a sort mode. -/
structure Documents (fields : Fields) (colors : List Color) (sizes : List Size)
    (low high : Binary64) (sort : SortMode) : Prop where
  color : fields.get? "color" = some (.list (colors.map fun c => .text c.name))
  size : fields.get? "size" = some (.list (sizes.map fun x => .text x.name))
  price : ∃ a b, fields.get? "price" = some (.list [a, b]) ∧ finiteNumber? a = some low ∧
    finiteNumber? b = some high
  low_nonneg : Binary64.zero.le low = true
  low_le_high : low.le high = true
  sort : fields.get? "sort" = some (.text sort.name)

variable {fields : Fields} {colors : List Color} {sizes : List Size} {low high : Binary64}
  {sort : SortMode}

/-- A documented payload is read as what it says. -/
theorem parse_of_documents (h : Documents fields colors sizes low high sort) :
    ∃ s, parse (.object fields) = .ok s ∧ s.colors = colors.eraseDups ∧
      s.sizes = sizes.eraseDups ∧ s.price.low.amount = low ∧ s.price.high = high ∧
      s.sort = sort := by
  obtain ⟨a, b, hPrice, ha, hb⟩ := h.price
  let lowBound : Bound := ⟨low, isFinite_of_finiteNumber? ha⟩
  let highBound : Bound := ⟨high, isFinite_of_finiteNumber? hb⟩
  let range : PriceRange := ⟨⟨low, h.low_nonneg⟩, high, h.low_le_high, highBound.property⟩
  refine ⟨⟨colors.eraseDups, sizes.eraseDups, range, sort⟩, ?_, rfl, rfl, rfl, rfl, rfl⟩
  rw [parse_object_of_known (namesKnown_of_given isSome_codeOf?_color colors h.color)
    (namesKnown_of_given isSome_codeOf?_size sizes h.size)]
  refine ofFields_eq_ok_iff.2 ⟨?_, ?_, ⟨lowBound, highBound, ?_, ?_⟩, ?_⟩
  · rw [← firstOccurrences_eq_eraseDups colors]
    exact Checked.required_eq_ok_iff.2 ⟨_, h.color, names_given member_color colors⟩
  · rw [← firstOccurrences_eq_eraseDups sizes]
    exact Checked.required_eq_ok_iff.2 ⟨_, h.size, names_given member_size sizes⟩
  · exact priceField_eq_ok_iff.2 ⟨_, hPrice,
      checkBounds_eq_accepted_iff.2 ⟨a, b, rfl, ha, hb⟩⟩
  · exact rangeOf_eq_ok_iff.2 ⟨rfl, rfl⟩
  · exact Checked.required_eq_ok_iff.2
      ⟨_, h.sort, Checked.ofFlaw_eq_ok_iff.2 (member_sortMode sort)⟩

/-- Only documented payloads are read. -/
theorem documents_of_parse {payload : Value} (hJson : payload.isJson = true) {s : Selection}
    (h : parse payload = .ok s) :
    ∃ fields colors sizes, payload = .object fields ∧
      Documents fields colors sizes s.price.low.amount s.price.high s.sort ∧
      s.colors = colors.eraseDups ∧ s.sizes = sizes.eraseDups := by
  obtain ⟨fields, rfl, hFields⟩ := exists_ofFields_of_parse h
  obtain ⟨hColors, hSizes, ⟨low, high, hBounds, hRange⟩, hSort⟩ := ofFields_eq_ok_iff.1 hFields
  obtain ⟨v, hColor, hNames⟩ := Checked.required_eq_ok_iff.1 hColors
  obtain ⟨colors, rfl, hColorsGiven⟩ := given_of_names (Value.isJson_of_get? hJson hColor) hNames
  obtain ⟨v, hSize, hNames⟩ := Checked.required_eq_ok_iff.1 hSizes
  obtain ⟨sizes, rfl, hSizesGiven⟩ := given_of_names (Value.isJson_of_get? hJson hSize) hNames
  obtain ⟨v, hPrice, hAccepted⟩ := priceField_eq_ok_iff.1 hBounds
  obtain ⟨a, b, rfl, ha, hb⟩ := checkBounds_eq_accepted_iff.1 hAccepted
  obtain ⟨v, hMode, hMember⟩ := Checked.required_eq_ok_iff.1 hSort
  have hName := Validation.eq_text_of_member (Value.isJson_of_get? hJson hMode)
    (Checked.ofFlaw_eq_ok_iff.1 hMember)
  obtain ⟨hLow, hHigh⟩ := rangeOf_eq_ok_iff.1 hRange
  subst hName
  rw [← hLow] at ha
  rw [← hHigh] at hb
  rw [firstOccurrences_eq_eraseDups] at hColorsGiven hSizesGiven
  exact ⟨fields, colors, sizes, rfl,
    ⟨hColor, hSize, ⟨a, b, hPrice, ha, hb⟩, s.price.low.nonneg, s.price.low_le_high, hMode⟩,
    hColorsGiven, hSizesGiven⟩

/-! ## The payload that shows a selection -/

theorem price_ext {r r' : PriceRange} (hLow : r.low.amount = r'.low.amount)
    (hHigh : r.high = r'.high) : r = r' := by
  obtain ⟨⟨low, hNonneg⟩, high, hOrder, hFinite⟩ := r
  obtain ⟨⟨low', hNonneg'⟩, high', hOrder', hFinite'⟩ := r'
  dsimp only at hLow hHigh
  subst hLow hHigh
  rfl

theorem finiteNumber?_float {x : Binary64} (hx : x.isFinite = true) :
    finiteNumber? (.float x) = some x := by
  rw [finiteNumber?, if_pos hx]

/-- The payload that shows a selection without repetitions is read as the selection. -/
theorem parse_toValue {s : Selection} (hColors : s.colors.eraseDups = s.colors)
    (hSizes : s.sizes.eraseDups = s.sizes) : parse s.toValue = .ok s := by
  have hFinite := Binary64.isFinite_of_le s.price.low.nonneg s.price.low_le_high
    s.price.high_finite
  have hDocuments : Documents
      [("color", .list (s.colors.map fun c => .text c.name)),
       ("size", .list (s.sizes.map fun x => .text x.name)),
       ("price", .list [.float s.price.low.amount, .float s.price.high]),
       ("sort", .text s.sort.name)]
      s.colors s.sizes s.price.low.amount s.price.high s.sort :=
    ⟨rfl, rfl, ⟨_, _, rfl, finiteNumber?_float hFinite, finiteNumber?_float s.price.high_finite⟩,
      s.price.low.nonneg, s.price.low_le_high, rfl⟩
  obtain ⟨s', hParse, hColors', hSizes', hLow, hHigh, hSort⟩ := parse_of_documents hDocuments
  have hEq : s' = s := by
    obtain ⟨colors, sizes, price, sort⟩ := s
    obtain ⟨colors', sizes', price', sort'⟩ := s'
    rw [hColors] at hColors'
    rw [hSizes] at hSizes'
    have hPrice := price_ext hLow hHigh
    dsimp only at hColors' hSizes' hSort hPrice
    rw [hColors', hSizes', hPrice, hSort]
  rw [← hEq] at hParse ⊢
  exact hParse

/-- Of the values of JSON exactly the documented payloads are accepted. Colors and sizes are read
without repetitions, and the payload that shows what was read is read as the same. -/
theorem parse_accepts_iff_documents {payload : Value} (hJson : payload.isJson = true) :
    ((∃ s, parse payload = .ok s) ↔
      ∃ fields colors sizes low high sort, payload = .object fields ∧
        Documents fields colors sizes low high sort) ∧
    ∀ s, parse payload = .ok s →
      (∃ fields colors sizes, payload = .object fields ∧
        Documents fields colors sizes s.price.low.amount s.price.high s.sort ∧
        s.colors = colors.eraseDups ∧ s.sizes = sizes.eraseDups) ∧
      parse s.toValue = .ok s := by
  refine ⟨⟨?_, ?_⟩, ?_⟩
  · rintro ⟨s, hParse⟩
    obtain ⟨fields, colors, sizes, hPayload, hDocuments, -, -⟩ := documents_of_parse hJson hParse
    exact ⟨fields, colors, sizes, _, _, _, hPayload, hDocuments⟩
  · rintro ⟨fields, colors, sizes, low, high, sort, rfl, hDocuments⟩
    obtain ⟨s, hParse, -⟩ := parse_of_documents hDocuments
    exact ⟨s, hParse⟩
  · intro s hParse
    have hDocuments := documents_of_parse hJson hParse
    refine ⟨hDocuments, ?_⟩
    obtain ⟨_, colors, sizes, -, -, hColors, hSizes⟩ := hDocuments
    refine parse_toValue ?_ ?_
    · rw [hColors, ← firstOccurrences_eq_eraseDups, ← firstOccurrences_eq_eraseDups,
        firstOccurrences_idem]
    · rw [hSizes, ← firstOccurrences_eq_eraseDups, ← firstOccurrences_eq_eraseDups,
        firstOccurrences_idem]

/-- A payload with a color given twice, an integer as a bound and a field that is not looked at. -/
def repetitivePayload : Value :=
  .object
    [("sort", .text "price-asc"), ("color", .list [.text "blue", .text "white", .text "blue"]),
     ("page", .null), ("size", .list []), ("price", .list [.int 0, .float .one])]

theorem parse_accepts_repetitivePayload :
    repetitivePayload.isJson = true ∧ ∃ s, parse repetitivePayload = .ok s := by
  have hJson : repetitivePayload.isJson = true := by rfl
  refine ⟨hJson, (parse_accepts_iff_documents hJson).1.2
    ⟨_, [.blue, .white, .blue], [], .zero, .one, .priceAscending, rfl, rfl, rfl,
      ⟨.int 0, .float .one, rfl, ?_, rfl⟩, rfl, ?_, rfl⟩⟩
  · rw [finiteNumber?]
    decide +kernel
  · decide +kernel

end Storefront.Selection
