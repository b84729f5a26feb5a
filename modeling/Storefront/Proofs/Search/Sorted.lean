import Mathlib
import Storefront.Proofs.Search.Pages
import Storefront.Proofs.Sorting.Stable

/-!
# Pages sorted by price

The strategy that sorts a page by the prices in its metadata gives the one stable sort of it, for
ascending and for descending prices: results of one price keep their order in both. It takes numbers
for that: NaN is related to no price, and what is sorted by it depends on the order of comparisons.

* `IsStableSort`: a stable sort of results.
* `ResultOrder.sortByPrice_false_iff`, `ResultOrder.sortByPrice_true_iff`: what sorting by price gives.
* `ResultOrder.arrange_sorts_stably`: the page for each sort mode, and that it stays when it is arranged
  once more.
-/

namespace Storefront

/-- A stable sort of results by their prices: the results in an order in which the prices are related,
those of one price in the order in which they were. -/
structure IsStableSort {α : Type} (related : Binary64 → Binary64 → Bool) (cost : α → Binary64)
    (page results : List α) : Prop where
  perm : page.Perm results
  sorted : page.Pairwise fun r s => related (cost r) (cost s) = true
  stable : ∀ x, page.filter (fun r => (cost r).numEq x) = results.filter fun r => (cost r).numEq x

/-- Prices as keys; NaN is none. -/
def costKeys {α : Type} (cost : α → Binary64) :
    Sorting.Keys (fun r s => (cost r).lt (cost s)) (WithBot (WithTop ℤ)) where
  key r := (cost r).rank
  HasKey r := (cost r).isNaN = false
  lt_iff := Binary64.lt_iff_rank

namespace IsStableSort

variable {α : Type} {related : Binary64 → Binary64 → Bool} {cost : α → Binary64}
  {page results : List α}

theorem reverse_iff :
    IsStableSort related cost page.reverse results.reverse ↔
      IsStableSort (fun x y => related y x) cost page results := by
  have hPerm : page.reverse.Perm results.reverse ↔ page.Perm results :=
    (List.reverse_perm page).congr_left _ |>.trans ((List.reverse_perm results).congr_right _)
  constructor
  · rintro ⟨h, hSorted, hStable⟩
    refine ⟨hPerm.1 h, List.pairwise_reverse.1 hSorted, fun x => ?_⟩
    have hFilter := hStable x
    rwa [List.filter_reverse, List.filter_reverse, List.reverse_inj] at hFilter
  · rintro ⟨h, hSorted, hStable⟩
    refine ⟨hPerm.2 h, List.pairwise_reverse.2 hSorted, fun x => ?_⟩
    rw [List.filter_reverse, List.filter_reverse, hStable x]

/-- What is sorted stably is a stable sort of itself. -/
theorem self (h : IsStableSort related cost page results) : IsStableSort related cost page page :=
  ⟨.refl _, h.sorted, fun _ => rfl⟩

theorem filter_numEq {rs : List α} {x : Binary64} (hx : x.isNaN = false)
    (h : ∀ r ∈ rs, (cost r).isNaN = false) :
    rs.filter (fun r => (cost r).numEq x) = rs.filter fun r => (costKeys cost).key r = x.rank := by
  apply List.filter_congr
  intro r hr
  rw [Bool.eq_iff_iff, decide_eq_true_iff]
  exact Binary64.numEq_iff_rank (h r hr) hx

/-- A stable sort in terms of keys. -/
theorem iff_isRun_alike (h : ∀ r ∈ results, (cost r).isNaN = false) :
    IsStableSort Binary64.le cost page results ↔
      (costKeys cost).IsRun page ∧ (costKeys cost).Alike page results := by
  constructor
  · rintro ⟨hPerm, hSorted, hStable⟩
    have hPage : ∀ r ∈ page, (cost r).isNaN = false := fun r hr => h r (hPerm.mem_iff.1 hr)
    refine ⟨⟨hPage, hSorted.imp_of_mem fun hr hs => ?_⟩, fun k => ?_⟩
    · exact (Binary64.le_iff_rank (hPage _ hr) (hPage _ hs)).1
    · by_cases hSome : ∃ r ∈ results, (costKeys cost).key r = k
      · obtain ⟨r, hr, rfl⟩ := hSome
        have hFilter := hStable (cost r)
        rwa [filter_numEq (h r hr) hPage, filter_numEq (h r hr) h] at hFilter
      · have hNone : ∀ r ∈ results, (costKeys cost).key r ≠ k := fun r hr hKey =>
          hSome ⟨r, hr, hKey⟩
        rw [Sorting.Keys.filter_eq_nil_of_forall_ne hNone,
          Sorting.Keys.filter_eq_nil_of_forall_ne fun r hr => hNone r (hPerm.mem_iff.1 hr)]
  · rintro ⟨⟨hPage, hSorted⟩, hAlike⟩
    refine ⟨hAlike.perm, hSorted.imp_of_mem fun hr hs => ?_, fun x => ?_⟩
    · exact (Binary64.le_iff_rank (hPage _ hr) (hPage _ hs)).2
    · cases hNaN : x.isNaN with
      | false =>
        rw [filter_numEq hNaN hPage, filter_numEq hNaN h]
        exact hAlike x.rank
      | true =>
        have hNone (rs : List α) : rs.filter (fun r => (cost r).numEq x) = [] := by
          apply List.filter_eq_nil_iff.2
          intro r _ hEq
          rw [Binary64.numEq, Bool.and_eq_true] at hEq
          rw [(Binary64.isNaN_of_le hEq.1).2] at hNaN
          cases hNaN
        rw [hNone, hNone]

theorem unique {other : List α} (h : IsStableSort Binary64.le cost page results)
    (hOther : IsStableSort Binary64.le cost other results)
    (hNumber : ∀ r ∈ results, (cost r).isNaN = false) : page = other := by
  obtain ⟨hRun, hAlike⟩ := (iff_isRun_alike hNumber).1 h
  obtain ⟨hOtherRun, hOtherAlike⟩ := (iff_isRun_alike hNumber).1 hOther
  exact hRun.eq_of_alike hOtherRun (hAlike.trans hOtherAlike.symm)

end IsStableSort

/-! ## Sorting by price -/

namespace ResultOrder

section ByPrice

variable {α : Type} {price : α → Except Misuse Binary64} {cost : α → Binary64} {page results : List α}

theorem sortByPrice_eq {descending : Bool} (hPrice : ∀ r ∈ results, price r = .ok (cost r)) :
    sortByPrice descending price results =
      .ok ((if descending then
        (Sorting.sortBy (fun a b => a.1.lt b.1) (results.map fun r => (cost r, r)).reverse).reverse
      else Sorting.sortBy (fun a b => a.1.lt b.1) (results.map fun r => (cost r, r))).map (·.2)) := by
  apply sortByPrice_eq_ok_iff.2
  refine ⟨results.map fun r => (cost r, r), ?_, rfl⟩
  rw [List.forall₂_map_right_iff, List.forall₂_same]
  exact fun r hr => ⟨hPrice r hr, rfl⟩

/-- Results sorted beside their prices are sorted stably. -/
theorem isStableSort_sortBy (hNumber : ∀ r ∈ results, (cost r).isNaN = false) :
    IsStableSort Binary64.le cost
      ((Sorting.sortBy (fun a b => a.1.lt b.1) (results.map fun r => (cost r, r))).map (·.2))
      results := by
  have hKeyed : ∀ k ∈ results.map fun r => (cost r, r), (costKeys Prod.fst).HasKey k :=
    List.forall_mem_map.2 hNumber
  have hSame : ∀ k ∈ results.map fun r => (cost r, r), (costKeys cost).HasKey k.2 ∧
      (costKeys cost).key k.2 = (costKeys Prod.fst).key k :=
    List.forall_mem_map.2 fun r hr => ⟨hNumber r hr, rfl⟩
  have hBack : (results.map fun r => (cost r, r)).map (·.2) = results := by
    rw [List.map_map]
    exact List.map_id results
  obtain ⟨hRun, hAlike⟩ := Sorting.Keys.sortBy_spec hKeyed
  rw [IsStableSort.iff_isRun_alike hNumber]
  constructor
  · exact hRun.map (hAlike.forall_mem hSame)
  · have hMapped := hAlike.map (L := costKeys cost) fun k hk => (hAlike.forall_mem hSame k hk).2
    rwa [hBack] at hMapped

/-- Sorting by ascending prices gives the stable sort, and nothing else. -/
theorem sortByPrice_false_iff (hPrice : ∀ r ∈ results, price r = .ok (cost r))
    (hNumber : ∀ r ∈ results, (cost r).isNaN = false) :
    sortByPrice false price results = .ok page ↔
      IsStableSort Binary64.le cost page results := by
  have hSort := isStableSort_sortBy hNumber
  rw [sortByPrice_eq hPrice, if_neg Bool.false_ne_true, Except.ok.injEq]
  constructor
  · rintro rfl
    exact hSort
  · intro h
    exact hSort.unique h hNumber

/-- Sorting by descending prices gives the stable sort by the opposite relation. -/
theorem sortByPrice_true_iff (hPrice : ∀ r ∈ results, price r = .ok (cost r))
    (hNumber : ∀ r ∈ results, (cost r).isNaN = false) :
    sortByPrice true price results = .ok page ↔
      IsStableSort (fun x y => y.le x) cost page results := by
  have hTurned : sortByPrice true price results = .ok page ↔
      sortByPrice false price results.reverse = .ok page.reverse := by
    rw [sortByPrice_eq hPrice, if_pos rfl, sortByPrice_eq fun r hr => hPrice r (List.mem_reverse.1 hr),
      if_neg Bool.false_ne_true, Except.ok.injEq, Except.ok.injEq, List.map_reverse, List.map_reverse,
      List.reverse_eq_iff]
  rw [hTurned, sortByPrice_false_iff (fun r hr => hPrice r (List.mem_reverse.1 hr))
    fun r hr => hNumber r (List.mem_reverse.1 hr)]
  exact IsStableSort.reverse_iff

end ByPrice

/-! ## Results -/

/-- The price that is written in a result: zero where it has no metadata or no price, and NaN where
there is none to be read. -/
def writtenPrice (result : Value) : Binary64 :=
  match result with
  | .object fields =>
    match Fields.get? fields "metadata" with
    | none | some .null => .zero
    | some (.object metadata) =>
      match Fields.get? metadata "price" with
      | none => .zero
      | some price =>
        match price.toBinary64 with
        | .ok x => x
        | .error _ => .nan
    | _ => .nan
  | _ => .nan

theorem toBinary64_int_zero : (Value.int 0).toBinary64 = .ok .zero := by
  have hZero : Binary64.ofInt? 0 = some .zero := by decide +kernel
  rw [Value.toBinary64, hZero]
  rfl

theorem metadataPrice_eq {metadata : Value} (fields : Fields)
    (h : (if metadata.truthy then metadata else .object []) = .object fields) :
    metadataPrice metadata = ((Fields.get? fields "price").getD (.int 0)).toBinary64 := by
  rw [metadataPrice, h]
  rfl

theorem resultPrice_eq {result : Value} (h : (writtenPrice result).isNaN = false) :
    resultPrice result = .ok (writtenPrice result) := by
  have hAbsent : metadataPrice .null = .ok .zero := by
    rw [metadataPrice_eq [] rfl]
    exact toBinary64_int_zero
  cases result with
  | object fields =>
    show metadataPrice ((Fields.get? fields "metadata").getD .null) = _
    rw [writtenPrice] at h ⊢
    cases hMetadata : Fields.get? fields "metadata" with
    | none => exact hAbsent
    | some metadata =>
      rw [hMetadata] at h
      cases metadata with
      | null => exact hAbsent
      | object metadata =>
        have hPresent : (if (Value.object metadata).truthy then Value.object metadata
            else .object []) = .object metadata := by
          cases metadata <;> rfl
        dsimp only [Option.getD_some] at h ⊢
        rw [metadataPrice_eq metadata hPresent]
        cases hPrice : Fields.get? metadata "price" with
        | none => exact toBinary64_int_zero
        | some price =>
          rw [hPrice] at h
          dsimp only [Option.getD_some] at h ⊢
          cases hDouble : price.toBinary64 with
          | ok x => rfl
          | error e =>
            rw [hDouble] at h
            cases h
      | _ => cases h
  | _ => cases h

/-- The results as a page for a sort mode. -/
def IsPageOf (sort : SortMode) (page results : List Value) : Prop :=
  match sort with
  | .unordered => page = results
  | .priceAscending => IsStableSort Binary64.le writtenPrice page results
  | .priceDescending => IsStableSort (fun x y => y.le x) writtenPrice page results

namespace IsPageOf

variable {sort : SortMode} {page results : List Value}

theorem perm (h : IsPageOf sort page results) : page.Perm results := by
  cases sort with
  | unordered => exact .of_eq h
  | priceAscending | priceDescending => exact IsStableSort.perm h

theorem self (h : IsPageOf sort page results) : IsPageOf sort page page := by
  cases sort with
  | unordered => exact Eq.refl page
  | priceAscending | priceDescending => exact IsStableSort.self h

end IsPageOf

/-- The strategy that sorts gives such a page and nothing else, where all prices are numbers. -/
theorem arrange_eq_ok_iff {o : ResultOrder} (hStrategy : o.strategy = .metadata) {sort : SortMode}
    {page results : List Value} (hNumber : ∀ r ∈ results, (writtenPrice r).isNaN = false) :
    o.arrange resultPrice sort results = .ok page ↔ IsPageOf sort page results := by
  have hPrice : ∀ r ∈ results, resultPrice r = .ok (writtenPrice r) := fun r hr =>
    resultPrice_eq (hNumber r hr)
  obtain ⟨strategy, average, top⟩ := o
  obtain rfl : strategy = .metadata := hStrategy
  cases sort with
  | unordered =>
    show Except.ok results = .ok page ↔ page = results
    rw [Except.ok.injEq, eq_comm]
  | priceAscending => exact sortByPrice_false_iff hPrice hNumber
  | priceDescending => exact sortByPrice_true_iff hPrice hNumber

/-- Where every result has a number as its price, the strategy that sorts gives the stable sort: for no
order the results as they are, for ascending and descending prices the results in that order, with those
of one price in the order in which they were. There is only that page, and it is left as it is when it
is arranged once more. -/
theorem arrange_sorts_stably (o : ResultOrder) (hStrategy : o.strategy = .metadata)
    (sort : SortMode) {results : List Value}
    (hNumber : ∀ r ∈ results, (writtenPrice r).isNaN = false) :
    ∃ page, o.arrange resultPrice sort results = .ok page ∧ IsPageOf sort page results ∧
      (∀ other, IsPageOf sort other results → other = page) ∧
      o.arrange resultPrice sort page = .ok page := by
  obtain ⟨page, hPage⟩ : ∃ page, o.arrange resultPrice sort results = .ok page :=
    exists_arrange_iff.2 fun _ r hr => ⟨writtenPrice r, resultPrice_eq (hNumber r hr)⟩
  have hIsPage := (arrange_eq_ok_iff hStrategy hNumber).1 hPage
  refine ⟨page, hPage, hIsPage, ?_, ?_⟩
  · intro other hOther
    have hSame := (arrange_eq_ok_iff hStrategy hNumber).2 hOther
    exact Except.ok.inj (hSame.symm.trans hPage)
  · have hNumberPage : ∀ r ∈ page, (writtenPrice r).isNaN = false := fun r hr =>
      hNumber r (hIsPage.perm.mem_iff.1 hr)
    exact (arrange_eq_ok_iff hStrategy hNumberPage).2 hIsPage.self

/-- Two results of the price two, one of them in a text, and two without a price. -/
def tiedResults : List Value :=
  [.object [("id", .text "a")],
   .object [("id", .text "b"), ("metadata", .object [("price", .int 2)])],
   .object [("id", .text "c"), ("metadata", .null)],
   .object [("id", .text "d"), ("metadata", .object [("price", .text "2.0")])]]

theorem arrange_tiedResults :
    ∃ page, ResultOrder.arrange ⟨.metadata, .int 25, .int 50⟩ resultPrice .priceDescending
        tiedResults = .ok page ∧
      IsStableSort (fun x y => y.le x) writtenPrice page tiedResults ∧
      ResultOrder.arrange ⟨.metadata, .int 25, .int 50⟩ resultPrice .priceDescending page =
        .ok page := by
  have hNumber : ∀ r ∈ tiedResults, (writtenPrice r).isNaN = false := by decide +kernel
  obtain ⟨page, hPage, hIsPage, -, hAgain⟩ :=
    arrange_sorts_stably ⟨.metadata, .int 25, .int 50⟩ rfl .priceDescending hNumber
  exact ⟨page, hPage, hIsPage, hAgain⟩

end ResultOrder

end Storefront
