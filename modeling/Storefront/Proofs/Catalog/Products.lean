import Mathlib
import Storefront.Proofs.Catalog.Records
import Storefront.Proofs.Validation.Checked
import Storefront.Proofs.Value.Reading

/-!
# The products of a catalog

A catalog has one product for each color, size and price. Where a product stands, and which id it has,
depends on the number of prices only, so a catalog with other prices overwrites the products of the one
before it, and a longer one leaves them what they are.

* `Catalog.generate_eq_ok_iff`: when there is a catalog, and which one.
* `Catalog.getElem?_products`: where a product stands.
* `Catalog.map_id_products`: the ids, which the prices have no part in.
* `Catalog.isCatalogOf_products`: what a catalog consists of.
* `Catalog.isStable_products`: what other prices leave as it is.
-/

namespace Storefront

theorem Color.getElem?_code (c : Color) : all[c.code]? = some c := by cases c <;> rfl

theorem Size.getElem?_code (s : Size) : all[s.code]? = some s := by cases s <;> rfl

/-- A price is accepted as it is. -/
theorem Price.check_amount (price : Price) : check (.float price.amount) = .ok price := by
  have hDouble : Validation.double (.float price.amount) = .ok price.amount := rfl
  rw [check, hDouble]
  exact dif_pos price.nonneg

namespace Catalog

open Validation (Checked)

variable {prices : List Price}

theorem generate_eq_ok_iff {values : List Value} {ps : List Product} :
    generate values = .ok ps ↔
      ∃ prices, List.Forall₂ (fun v price => Price.check v = .ok price) values prices ∧
        products prices = ps := by
  rw [generate, map_eq_ok_iff, checkPrices]
  simp only [mapM_eq_ok_iff, Checked.under_eq_ok_iff, Checked.ofFlaw_eq_ok_iff]

/-! ## Places -/

/-- In blocks of the same length an item is found by its block and its place in it. -/
theorem getElem?_flatMap {α β : Type} {f : α → List β} {n : Nat} (hLength : ∀ a, (f a).length = n)
    {as : List α} {k i : Nat} {a : α} (ha : as[k]? = some a) (hi : i < n) :
    (as.flatMap f)[k * n + i]? = (f a)[i]? := by
  induction as generalizing k with
  | nil => cases ha
  | cons a' as ih =>
    cases k with
    | zero =>
      cases ha
      rw [List.flatMap_cons, Nat.zero_mul, Nat.zero_add, List.getElem?_append_left]
      rwa [hLength]
    | succ k =>
      have hPlace : (k + 1) * n + i = (f a').length + (k * n + i) := by
        rw [hLength]
        ring
      rw [List.flatMap_cons, hPlace, List.getElem?_append_right (Nat.le_add_right _ _),
        Nat.add_sub_cancel_left]
      exact ih ha

/-- Every variant stands at the places of its color and size. -/
theorem getElem?_variants {a b : Nat} {c : Color} {s : Size} (hc : Color.all[a]? = some c)
    (hs : Size.all[b]? = some s) : variants[a * 3 + b]? = some (c, s) := by
  have hb : b < 3 := (List.getElem?_eq_some_iff.1 hs).1
  have hLength (color : Color) : (Size.all.map fun size => (color, size)).length = 3 := rfl
  rw [variants, getElem?_flatMap hLength hc hb, List.getElem?_map, hs]
  rfl

/-- The products of one color and one size. -/
theorem length_block (prices : List Price) (v : Color × Size) :
    (prices.zipIdx.map fun e => product v.1 v.2 e.2 e.1).length = prices.length := by
  rw [List.length_map, List.length_zipIdx]

theorem getElem?_products {k i : Nat} {v : Color × Size} {price : Price}
    (hv : variants[k]? = some v) (hi : prices[i]? = some price) :
    (products prices)[k * prices.length + i]? = some (product v.1 v.2 i price) := by
  have hPlace : i < prices.length := (List.getElem?_eq_some_iff.1 hi).1
  rw [products, getElem?_flatMap (length_block prices) hv hPlace, List.getElem?_map,
    List.getElem?_zipIdx, hi, Nat.zero_add]
  rfl

theorem length_products (prices : List Price) : (products prices).length = 15 * prices.length := by
  have hVariants : variants.length = 15 := rfl
  have hBlocks : variants.map (fun v => (prices.zipIdx.map fun e => product v.1 v.2 e.2 e.1).length) =
      List.replicate 15 prices.length := by
    rw [← hVariants, ← List.map_const']
    exact List.map_congr_left fun v _ => length_block prices v
  calc (products prices).length
    _ = (List.replicate 15 prices.length).sum := by rw [← hBlocks]; exact List.length_flatMap
    _ = 15 * prices.length := by rw [List.sum_replicate, smul_eq_mul]

theorem product_mem (c : Color) (s : Size) {i : Nat} {price : Price} (h : prices[i]? = some price) :
    product c s i price ∈ products prices := by
  have hVariant : variants[c.code * 3 + s.code]? = some (c, s) :=
    getElem?_variants c.getElem?_code s.getElem?_code
  have hPlace := getElem?_products hVariant h
  exact List.mem_of_getElem? hPlace

/-! ## Ids -/

/-- The prices have no part in the ids. -/
theorem map_id_products (prices : List Price) : (products prices).map Product.id =
    variants.flatMap fun v => (List.range prices.length).map (productId v.1 v.2) := by
  rw [products, List.map_flatMap]
  refine List.flatMap_congr fun v _ => ?_
  rw [List.map_map, List.range_eq_range', ← List.zipIdx_map_snd, List.map_map]
  rfl

theorem nodup_variants : variants.Nodup := by decide

theorem nodup_ids (prices : List Price) : ((products prices).map Product.id).Nodup := by
  rw [map_id_products, List.nodup_flatMap]
  constructor
  · rintro ⟨c, s⟩ -
    exact List.nodup_range.map fun i j h => (productId_injective h).2.2
  · refine nodup_variants.imp ?_
    rintro ⟨c, s⟩ ⟨c', s'⟩ hOther id hid hid'
    obtain ⟨i, -, rfl⟩ := List.mem_map.1 hid
    obtain ⟨j, -, hSame⟩ := List.mem_map.1 hid'
    obtain ⟨rfl, rfl, -⟩ := productId_injective hSame
    exact hOther rfl

/-- Where no key occurs twice, an item is the only one with its key. -/
theorem filter_of_nodup_map {α β : Type} [DecidableEq α] [DecidableEq β] {f : α → β} {as : List α}
    {a : α} (hNodup : (as.map f).Nodup) (ha : a ∈ as) : as.filter (fun b => f b = f a) = [a] := by
  have hSame : ∀ b ∈ as, (decide (f b = f a)) = decide (b = a) := by
    intro b hb
    exact decide_eq_decide.2 ⟨fun h => List.inj_on_of_nodup_map hNodup hb ha h, congrArg f⟩
  rw [List.filter_congr hSame, List.filter_eq, List.count_eq_one_of_mem hNodup.of_map ha]
  rfl

/-! ## Catalogs -/

/-- The name of a color, the name of a size and a place, with hyphens between them. -/
def idText (c : Color) (s : Size) (i : Nat) : Text :=
  Text.ofString (c.name ++ "-" ++ s.name ++ "-" ++ toString i)

theorem productId_eq (c : Color) (s : Size) (i : Nat) : productId c s i = idText c s i := by
  simp [productId, idText, Text.ofString, Text.ofChars]

/-- The product has the id of a color, a size and a place, the color and the size themselves, and a
price. -/
def Stands (p : Product) (c : Color) (s : Size) (i : Nat) (price : Price) : Prop :=
  p.id = idText c s i ∧ p.color = c ∧ p.size = s ∧ p.price = price

theorem stands_product (c : Color) (s : Size) (i : Nat) (price : Price) :
    Stands (product c s i price) c s i price :=
  ⟨productId_eq c s i, rfl, rfl, rfl⟩

/-- There is one product for each color, size and price, sorted by color, then by size and then by the
place of the price. Its id says which color, size and place these are, and no other product has it. -/
structure IsCatalogOf (ps : List Product) (prices : List Price) : Prop where
  length : ps.length = 15 * prices.length
  place : ∀ {a b i c s price}, Color.all[a]? = some c → Size.all[b]? = some s →
    prices[i]? = some price →
      ∃ p, ps[(a * 3 + b) * prices.length + i]? = some p ∧ Stands p c s i price
  unique : ∀ {c s i price}, prices[i]? = some price →
    ∃ p, ps.filter (fun p => p.id = idText c s i) = [p] ∧ Stands p c s i price
  nodup : (ps.map Product.id).Nodup
  determined : ∀ p ∈ ps, ∃! v : Color × Size × Nat, p.id = idText v.1 v.2.1 v.2.2

theorem isCatalogOf_products (prices : List Price) : IsCatalogOf (products prices) prices where
  length := length_products prices
  place hc hs hi :=
    ⟨_, getElem?_products (getElem?_variants hc hs) hi, stands_product _ _ _ _⟩
  unique {c s i price} hi := by
    have hFilter := filter_of_nodup_map (nodup_ids prices) (product_mem c s hi)
    rw [← productId_eq]
    exact ⟨_, hFilter, stands_product c s i price⟩
  nodup := nodup_ids prices
  determined p hp := by
    obtain ⟨c, s, i, price, -, rfl⟩ := mem_products hp
    refine ⟨(c, s, i), productId_eq c s i, ?_⟩
    rintro ⟨c', s', i'⟩ hId
    obtain ⟨rfl, rfl, rfl⟩ := productId_injective (hId.trans (productId_eq c' s' i').symm)
    rfl

/-! ## Other prices -/

/-- What was made of some items is made of them again in front of others. -/
theorem exists_append_of_forall₂ {α β ε : Type} {f : α → Except ε β} {as more : List α}
    {bs cs : List β} (h : List.Forall₂ (fun a b => f a = .ok b) as bs)
    (hMore : List.Forall₂ (fun a b => f a = .ok b) (as ++ more) cs) :
    ∃ ds, cs = bs ++ ds ∧ ds.length = more.length := by
  induction h generalizing cs with
  | nil => exact ⟨cs, rfl, hMore.length_eq.symm⟩
  | cons hHead _ ih =>
    cases hMore with
    | cons hHead' hTail' =>
      obtain ⟨ds, rfl, hLength⟩ := ih hTail'
      rw [hHead, Except.ok.injEq] at hHead'
      exact ⟨ds, by rw [hHead', List.cons_append], hLength⟩

theorem sublist_products_append (prices more : List Price) :
    (products prices).Sublist (products (prices ++ more)) := by
  refine List.Sublist.flatMap_right _ ?_
  rintro ⟨c, s⟩ -
  dsimp only
  rw [List.zipIdx_append, List.map_append]
  exact List.sublist_append_left _ _

/-- Another catalog with as many prices has the same ids, and a longer one the same products for the
prices of this one: in each of the blocks of a color and a size they come first. -/
structure IsStable (ps : List Product) (values : List Value) : Prop where
  ids : ∀ {values' ps'}, values'.length = values.length → generate values' = .ok ps' →
    ps'.map Product.id = ps.map Product.id
  sublist : ∀ {more ps'}, generate (values ++ more) = .ok ps' → ps.Sublist ps'
  place : ∀ {more ps' k i}, generate (values ++ more) = .ok ps' → k < 15 → i < values.length →
    ps'[k * (values ++ more).length + i]? = ps[k * values.length + i]?

theorem isStable_products {values : List Value}
    (h : List.Forall₂ (fun v price => Price.check v = .ok price) values prices) :
    IsStable (products prices) values where
  ids {values' ps'} hLength h' := by
    obtain ⟨prices', hPrices', rfl⟩ := generate_eq_ok_iff.1 h'
    rw [map_id_products, map_id_products, ← hPrices'.length_eq, hLength, h.length_eq]
  sublist {more ps'} h' := by
    obtain ⟨prices', hPrices', rfl⟩ := generate_eq_ok_iff.1 h'
    obtain ⟨added, rfl, -⟩ := exists_append_of_forall₂ h hPrices'
    exact sublist_products_append prices added
  place {more ps' k i} h' hk hi := by
    obtain ⟨prices', hPrices', rfl⟩ := generate_eq_ok_iff.1 h'
    obtain ⟨added, rfl, -⟩ := exists_append_of_forall₂ h hPrices'
    obtain ⟨v, hv⟩ : ∃ v, variants[k]? = some v := ⟨_, List.getElem?_eq_getElem hk⟩
    rw [h.length_eq] at hi
    have hPrice : prices[i]? = some prices[i] := List.getElem?_eq_getElem hi
    have hLonger : (prices ++ added)[i]? = some prices[i] := by
      rw [List.getElem?_append_left hi, hPrice]
    rw [hPrices'.length_eq, h.length_eq, getElem?_products hv hLonger, getElem?_products hv hPrice]

/-- Prices that pass their check have a catalog, and its ids last. -/
theorem exists_generate {values : List Value}
    (h : List.Forall₂ (fun v price => Price.check v = .ok price) values prices) :
    ∃ ps, generate values = .ok ps ∧ IsCatalogOf ps prices ∧ IsStable ps values :=
  ⟨_, generate_eq_ok_iff.2 ⟨prices, h, rfl⟩, isCatalogOf_products prices, isStable_products h⟩

/-- An integer, a double and a text. -/
def threePrices : List Value := [.int 10, .float (.nearest false 5 2), .text "1e1"]

theorem exists_generate_threePrices :
    ∃ prices ps, List.Forall₂ (fun v price => Price.check v = .ok price) threePrices prices ∧
      generate threePrices = .ok ps ∧ ps.length = 45 ∧
      ∃ p price, prices[1]? = some price ∧ ps[25]? = some p ∧ p.id = Text.ofString "blue-L-1" ∧
        p.price = price := by
  have hCheck : ∀ v ∈ threePrices, ∃ price, Price.check v = .ok price := by
    have hOk : ∀ v ∈ threePrices, (Price.check v).isOk = true := by decide +kernel
    exact fun v hv => exists_of_isOk (hOk v hv)
  obtain ⟨prices, hPrices⟩ := exists_forall₂_iff.2 hCheck
  have hThree : prices.length = 3 := hPrices.length_eq.symm
  have hPlace : prices[1]? = some prices[1] := List.getElem?_eq_getElem (by omega)
  obtain ⟨ps, hGenerate, hCatalog, -⟩ := exists_generate hPrices
  obtain ⟨p, hp, hStands⟩ :=
    hCatalog.place Color.blue.getElem?_code Size.large.getElem?_code hPlace
  refine ⟨prices, ps, hPrices, hGenerate, ?_, p, _, hPlace, ?_, hStands.1, hStands.2.2.2⟩
  · rw [hCatalog.length, hThree]
  · rw [← hp, hThree]
    rfl

end Catalog

end Storefront
