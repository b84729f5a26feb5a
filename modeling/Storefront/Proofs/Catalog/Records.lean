import Mathlib
import Storefront.Index.Content
import Storefront.Seeding.Run
import Storefront.Proofs.Catalog.Batches

/-!
# The records of a catalog

The id of a product says which color, which size and which price of the list it has, so no two
records of a catalog share an id, and none is lost when the catalog is stored. How the records are
cut into batches makes no difference to that.

* `Catalog.productId_injective`: an id determines color, size and place of the price.
* `Seeding.eq_of_id`: a record of a catalog is determined by its id.
* `Seeding.isOverwritten_putAll`: storing a catalog stores each of its records.
* `Index.Content.putAll_putAll`: what is overwritten does not matter.
-/

namespace Storefront

/-! ## Ids -/

namespace Catalog

theorem color_name_injective {c c' : Color} (h : (c.name : Text) = c'.name) : c = c' := by
  revert h
  cases c <;> cases c' <;> decide

theorem size_name_injective {s s' : Size} (h : (s.name : Text) = s'.name) : s = s' := by
  revert h
  cases s <;> cases s' <;> decide

theorem hyphen_notMem_color_name (c : Color) : CodePoint.char '-' ∉ (c.name : Text) := by
  cases c <;> decide

theorem hyphen_notMem_size_name (s : Size) : CodePoint.char '-' ∉ (s.name : Text) := by
  cases s <;> decide

/-- Texts that are equal up to their first hyphens, and so behind them. -/
theorem eq_of_hyphens {s s' t t' : Text} (hs : CodePoint.char '-' ∉ s)
    (hs' : CodePoint.char '-' ∉ s')
    (h : s ++ CodePoint.char '-' :: t = s' ++ CodePoint.char '-' :: t') : s = s' ∧ t = t' := by
  have hFront {s : Text} (hs : CodePoint.char '-' ∉ s) (t : Text) :
      (s ++ CodePoint.char '-' :: t).takeWhile (· != CodePoint.char '-') = s := by
    have hAll : ∀ p ∈ s, (p != CodePoint.char '-') = true := by
      intro p hp
      rw [bne_iff_ne]
      exact ne_of_mem_of_not_mem hp hs
    rw [List.takeWhile_append_of_pos hAll]
    simp
  have hSame : s = s' := by rw [← hFront hs t, h, hFront hs' t']
  rw [hSame, List.append_cancel_left_eq, List.cons.injEq] at h
  exact ⟨hSame, h.2⟩

/-- Names hold no hyphens, so the first two hyphens of an id stand behind its names. -/
theorem productId_injective {c c' : Color} {s s' : Size} {i i' : Nat}
    (h : productId c s i = productId c' s' i') : c = c' ∧ s = s' ∧ i = i' := by
  have hParts (c : Color) (s : Size) (i : Nat) :
      productId c s i =
        c.name ++ CodePoint.char '-' :: (s.name ++ CodePoint.char '-' :: (toString i : Text)) := by
    simp [productId, Text.ofString, Text.ofChars]
  rw [hParts, hParts] at h
  obtain ⟨hColor, hRest⟩ :=
    eq_of_hyphens (hyphen_notMem_color_name c) (hyphen_notMem_color_name c') h
  obtain ⟨hSize, hPlace⟩ :=
    eq_of_hyphens (hyphen_notMem_size_name s) (hyphen_notMem_size_name s') hRest
  exact ⟨color_name_injective hColor, size_name_injective hSize,
    Nat.repr_inj.1 (Text.ofString_inj.1 hPlace)⟩

theorem mem_products {prices : List Price} {p : Product} (h : p ∈ products prices) :
    ∃ c s i price, prices[i]? = some price ∧ p = product c s i price := by
  obtain ⟨⟨c, s⟩, -, h⟩ := List.mem_flatMap.1 h
  obtain ⟨⟨price, i⟩, hPlace, rfl⟩ := List.mem_map.1 h
  exact ⟨c, s, i, price, List.mem_zipIdx_iff_getElem?.1 hPlace, rfl⟩

end Catalog

/-! ## Storing -/

namespace Seeding

variable {prices : List Price}

theorem mem_catalog {r : VectorRecord} (h : r ∈ catalog prices) :
    ∃ c s i price, prices[i]? = some price ∧ r = (Catalog.product c s i price).toRecord := by
  obtain ⟨p, hProduct, rfl⟩ := List.mem_map.1 h
  obtain ⟨c, s, i, price, hPlace, rfl⟩ := Catalog.mem_products hProduct
  exact ⟨c, s, i, price, hPlace, rfl⟩

theorem exists_id {r : VectorRecord} (h : r ∈ catalog prices) : ∃ id, r.id = .text id := by
  obtain ⟨c, s, i, price, -, rfl⟩ := mem_catalog h
  exact ⟨_, rfl⟩

/-- A record of a catalog is determined by its id. -/
theorem eq_of_id {r r' : VectorRecord} (h : r ∈ catalog prices) (h' : r' ∈ catalog prices)
    (hId : r.id = r'.id) : r = r' := by
  obtain ⟨c, s, i, price, hPlace, rfl⟩ := mem_catalog h
  obtain ⟨c', s', i', price', hPlace', rfl⟩ := mem_catalog h'
  obtain ⟨rfl, rfl, rfl⟩ := Catalog.productId_injective (Value.text.inj hId)
  rw [hPlace] at hPlace'
  rw [Option.some.inj hPlace']

end Seeding

namespace Index.Content

/-- What is overwritten does not matter. -/
theorem putAll_putAll (c : Content) {rs rs' : List VectorRecord} (h : rs ⊆ rs') :
    (c.putAll rs).putAll rs' = c.putAll rs' := by
  ext1
  funext id
  rw [record?_putAll, record?_putAll, record?_putAll]
  cases hFound : rs'.reverse.find? fun r => r.id.text? = some id with
  | some r => rfl
  | none =>
    -- No record of the second list has this id, and so none of the first.
    have hNone : (rs.reverse.find? fun r => r.id.text? = some id) = none := by
      rw [List.find?_eq_none] at hFound ⊢
      intro r hr
      exact hFound r (List.mem_reverse.2 (h (List.mem_reverse.1 hr)))
    rw [hNone, Option.none_or]

theorem carryOutAll_append (c : Content) (calls more : List Call) :
    c.carryOutAll (calls ++ more) = (c.carryOutAll calls).carryOutAll more := List.foldl_append

/-- Storing batches one after the other stores their records. -/
theorem carryOutAll_upserts (c : Content) (batches : List (List VectorRecord)) :
    c.carryOutAll (batches.map .upsert) = c.putAll batches.flatten := by
  rw [carryOutAll, List.foldl_map, putAll, List.foldl_flatten]
  rfl

end Index.Content

namespace Seeding

/-- Storing a catalog stores each of its records, and nothing else. -/
theorem isOverwritten_putAll (c : Index.Content) (prices : List Price) :
    c.IsOverwritten (catalog prices) (c.putAll (catalog prices)) where
  stored r hr := by
    obtain ⟨id, hId⟩ := exists_id hr
    refine ⟨id, hId, ?_⟩
    rw [Index.Content.record?_putAll]
    cases hFound : (catalog prices).reverse.find? fun r => r.id.text? = some id with
    | none =>
      have hNone := List.find?_eq_none.1 hFound r (List.mem_reverse.2 hr)
      simp [hId, Value.text?] at hNone
    | some r' =>
      have hMember := List.mem_reverse.1 (List.mem_of_find?_eq_some hFound)
      obtain ⟨id', hId'⟩ := exists_id hMember
      have hSame : r'.id.text? = some id := by simpa using List.find?_some hFound
      rw [hId', Value.text?, Option.some.injEq] at hSame
      rw [eq_of_id hMember hr (by rw [hId', hId, hSame]), Option.some_or]
  kept id hOther := by
    have hNone : ((catalog prices).reverse.find? fun r => r.id.text? = some id) = none := by
      rw [List.find?_eq_none]
      intro r hr
      obtain ⟨id', hId'⟩ := exists_id (List.mem_reverse.1 hr)
      have hNe := hOther r (List.mem_reverse.1 hr)
      rw [hId', ne_eq, Value.text.injEq] at hNe
      simpa [hId', Value.text?] using hNe
    rw [Index.Content.record?_putAll, hNone, Option.none_or]

end Seeding

end Storefront
