import Mathlib
import Storefront.Proofs.Search.Queries
import Storefront.Proofs.Settings.Usable
import Storefront.Proofs.Sorting.Keeping
import Storefront.Proofs.Value.Reading

/-!
# Pages that cannot be read

What the index answers has no fixed shape. The client reads matches from it, and where a page is
sorted, prices are read from the metadata of the matches. Neither counts as a failure of the backend
when it fails.

* `Match.IsReadable`, `HasPrice`: what reading a match and its price need.
* `ResultOrder.exists_arrange_iff`, `ResultOrder.arrange_perm`: when a page is brought into order, and
  that it keeps its matches.
* `SearchService.not_page_or_failure`: an answer that ends a search in neither of the two ways.
* `SearchService.page_or_failure_iff`: which answers make a page, and what becomes of the others.
-/

namespace Storefront

open Index (BackendError Call ClientError Match Reply)

/-! ## Matches -/

namespace Index.Match

/-- An object with an id and a score, and with something to go through as its vector if it has one. -/
def IsReadable (item : Value) : Prop :=
  ∃ fields : Fields, item = .object fields ∧ (fields.get? "id").isSome = true ∧
    (fields.get? "score").isSome = true ∧
    ∀ v, fields.get? "vector" = some v → v = .null ∨ v.IsIterable

def metadataOf (item : Value) : Value := (item.field? "metadata").getD .null

theorem exists_member_iff {item : Value} {name : String} :
    (∃ v, member item name = .ok v) ↔
      ∃ fields : Fields, item = .object fields ∧ (fields.get? name).isSome = true := by
  cases item with
  | object fields =>
    rw [member]
    cases hField : Fields.get? fields name <;> simp [hField]
  | null | bool _ | int _ | float _ | text _ | bytes _ | list _ => simp [member]

theorem exists_vectorOf_iff {fields : Fields} :
    (∃ v, vectorOf (.object fields) = .ok v) ↔
      ∀ v, fields.get? "vector" = some v → v = .null ∨ v.IsIterable := by
  rw [vectorOf, Value.field?]
  cases fields.get? "vector" with
  | none => simp
  | some v =>
    have hItems := Value.exists_items_iff (v := v)
    cases v with
    | null => simp
    | _ =>
      rw [Option.getD_some]
      simp only [map_eq_ok_iff, exists_comm (α := Value), exists_and_left, exists_eq', and_true,
        hItems]
      simp

/-- An item is read as a match exactly where it is readable. -/
theorem exists_ofItem_iff {item : Value} : (∃ m, ofItem item = .ok m) ↔ IsReadable item := by
  unfold ofItem
  simp only [bind_eq_ok_iff]
  constructor
  · rintro ⟨m, id, hId, score, hScore, vector, hVector, -⟩
    obtain ⟨fields, rfl, hIdField⟩ := exists_member_iff.1 ⟨id, hId⟩
    obtain ⟨_, hFields, hScoreField⟩ := exists_member_iff.1 ⟨score, hScore⟩
    cases hFields
    exact ⟨fields, rfl, hIdField, hScoreField, exists_vectorOf_iff.1 ⟨vector, hVector⟩⟩
  · rintro ⟨fields, rfl, hId, hScore, hVector⟩
    obtain ⟨id, hId⟩ := exists_member_iff.2 ⟨fields, rfl, hId⟩
    obtain ⟨score, hScore⟩ := exists_member_iff.2 ⟨fields, rfl, hScore⟩
    obtain ⟨vector, hVector⟩ := exists_vectorOf_iff.2 hVector
    exact ⟨_, id, hId, score, hScore, vector, hVector, rfl⟩

theorem metadata_of_ofItem {item : Value} {m : Match} (h : ofItem item = .ok m) :
    m.metadata = metadataOf item := by
  unfold ofItem at h
  obtain ⟨id, -, h⟩ := bind_eq_ok_iff.1 h
  obtain ⟨score, -, h⟩ := bind_eq_ok_iff.1 h
  obtain ⟨vector, -, h⟩ := bind_eq_ok_iff.1 h
  cases h
  rfl

end Index.Match

theorem Index.Client.readMatches_eq_ok_iff {answer : Value} {found : List Match} :
    readMatches answer = .ok found ↔ ∃ items, answer.items = .ok items ∧
      List.Forall₂ (fun item m => Match.ofItem item = .ok m) items found := by
  rw [readMatches, bind_eq_ok_iff]
  simp only [mapM_eq_ok_iff]

/-! ## Prices -/

/-- The metadata is as good as absent, or it is an object with a number as its price, if it has a
price. -/
def HasPrice (metadata : Value) : Prop :=
  metadata.truthy = false ∨ ∃ fields : Fields, metadata = .object fields ∧
    ∀ price, fields.get? "price" = some price → price.IsNumeric

theorem exists_metadataPrice_iff {metadata : Value} :
    (∃ x, metadataPrice metadata = .ok x) ↔ HasPrice metadata := by
  have hZero : ∃ x, (Value.int 0).toBinary64 = .ok x := by
    obtain ⟨x, hx, -, -⟩ := Binary64.ofInt?_of_small (n := 0) (by decide)
    exact ⟨x, by rw [Value.toBinary64, hx]; rfl⟩
  rw [metadataPrice, HasPrice]
  simp only [bind_eq_ok_iff]
  cases hTruthy : metadata.truthy with
  | false =>
    refine iff_of_true ?_ (.inl rfl)
    obtain ⟨x, hx⟩ := hZero
    exact ⟨x, .int 0, rfl, hx⟩
  | true =>
    cases metadata with
    | object fields =>
      cases hPrice : Fields.get? fields "price" with
      | none => simp [Value.getD, hPrice, hZero]
      | some price => simp [Value.getD, hPrice, Value.exists_toBinary64_iff]
    | _ => simp [Value.getD]

/-! ## Order -/

namespace ResultOrder

variable {α : Type} {price : α → Except Misuse Binary64} {o : ResultOrder} {sort : SortMode}
  {results page : List α}

/-- Pages are sorted by their prices: by the one strategy, and only where a price order is wanted. -/
def Sorts (o : ResultOrder) (sort : SortMode) : Prop := o.strategy = .metadata ∧ sort ≠ .unordered

theorem sortByPrice_eq_ok_iff {descending : Bool} :
    sortByPrice descending price results = .ok page ↔
      ∃ keyed : List (Binary64 × α),
        List.Forall₂ (fun r k => price r = .ok k.1 ∧ k.2 = r) results keyed ∧
        page = (if descending then
          (Sorting.sortBy (fun a b => a.1.lt b.1) keyed.reverse).reverse
        else Sorting.sortBy (fun a b => a.1.lt b.1) keyed).map (·.2) := by
  have hKey (r : α) (k : Binary64 × α) :
      (do let p ← price r; pure (p, r)) = .ok k ↔ price r = .ok k.1 ∧ k.2 = r := by
    rw [bind_eq_ok_iff]
    constructor
    · rintro ⟨p, hp, hk⟩
      cases hk
      exact ⟨hp, rfl⟩
    · rintro ⟨hp, rfl⟩
      exact ⟨k.1, hp, rfl⟩
  rw [sortByPrice, bind_eq_ok_iff]
  simp only [mapM_eq_ok_iff, hKey]
  constructor
  · rintro ⟨keyed, hKeyed, h⟩
    exact ⟨keyed, hKeyed, (Except.ok.inj h).symm⟩
  · rintro ⟨keyed, hKeyed, rfl⟩
    exact ⟨keyed, hKeyed, rfl⟩

theorem exists_sortByPrice_iff {descending : Bool} :
    (∃ page, sortByPrice descending price results = .ok page) ↔
      ∀ r ∈ results, ∃ x, price r = .ok x := by
  simp only [sortByPrice_eq_ok_iff]
  constructor
  · rintro ⟨page, keyed, hKeyed, -⟩ r hr
    obtain ⟨k, hPrice, -⟩ := exists_forall₂_iff.1 ⟨keyed, hKeyed⟩ r hr
    exact ⟨k.1, hPrice⟩
  · intro h
    obtain ⟨keyed, hKeyed⟩ : ∃ keyed : List (Binary64 × α),
        List.Forall₂ (fun r k => price r = .ok k.1 ∧ k.2 = r) results keyed := by
      refine exists_forall₂_iff.2 fun r hr => ?_
      obtain ⟨x, hPrice⟩ := h r hr
      exact ⟨(x, r), hPrice, rfl⟩
    exact ⟨_, keyed, hKeyed, rfl⟩

theorem sortByPrice_perm {descending : Bool}
    (h : sortByPrice descending price results = .ok page) : page.Perm results := by
  obtain ⟨keyed, hKeyed, rfl⟩ := sortByPrice_eq_ok_iff.1 h
  have hResults : keyed.map (·.2) = results := by
    clear h
    induction hKeyed with
    | nil => rfl
    | cons hHead _ ih => rw [List.map_cons, hHead.2, ih]
  rw [← hResults]
  refine List.Perm.map _ ?_
  cases descending with
  | false => exact Sorting.sortBy_perm _ keyed
  | true =>
    exact (List.reverse_perm _).trans ((Sorting.sortBy_perm _ _).trans (List.reverse_perm keyed))

/-- A page is brought into order unless it is sorted and a price is missing. -/
theorem exists_arrange_iff :
    (∃ page, o.arrange price sort results = .ok page) ↔
      (o.Sorts sort → ∀ r ∈ results, ∃ x, price r = .ok x) := by
  obtain ⟨strategy, average, top⟩ := o
  cases strategy with
  | probe =>
    refine iff_of_true ⟨results, by cases sort <;> rfl⟩ ?_
    rintro ⟨hStrategy, -⟩
    cases hStrategy
  | metadata =>
    cases sort with
    | unordered => exact iff_of_true ⟨results, rfl⟩ fun h => absurd rfl h.2
    | priceAscending | priceDescending =>
      rw [imp_iff_right ⟨rfl, by rintro ⟨⟩⟩]
      exact exists_sortByPrice_iff

/-- The page holds the results, and in their order unless it is sorted. -/
theorem arrange_perm (h : o.arrange price sort results = .ok page) :
    page.Perm results ∧ (¬ o.Sorts sort → page = results) := by
  obtain ⟨strategy, average, top⟩ := o
  cases strategy with
  | probe =>
    have hSame : page = results := by cases sort <;> exact (Except.ok.inj h).symm
    exact ⟨.of_eq hSame, fun _ => hSame⟩
  | metadata =>
    cases sort with
    | unordered =>
      have hSame : page = results := (Except.ok.inj h).symm
      exact ⟨.of_eq hSame, fun _ => hSame⟩
    | priceAscending | priceDescending =>
      exact ⟨sortByPrice_perm h, fun hNot => absurd ⟨rfl, by rintro ⟨⟩⟩ hNot⟩

end ResultOrder

/-! ## Searches -/

namespace SearchService

/-- The answer is a list of matches, or something else that yields some, and where it is to be sorted
the matches have prices. -/
def CanPage (service : SearchService) (sort : SortMode) (answer : Value) : Prop :=
  ∃ items, answer.items = .ok items ∧ (∀ item ∈ items, Match.IsReadable item) ∧
    (service.order.Sorts sort → ∀ item ∈ items, HasPrice (Match.metadataOf item))

/-- The matches of the items, in their order unless the page is sorted. -/
def IsPage (service : SearchService) (sort : SortMode) (answer : Value) (page : List Match) : Prop :=
  ∃ items found, answer.items = .ok items ∧
    List.Forall₂ (fun item m => Match.ofItem item = .ok m) items found ∧
    page.Perm found ∧ (¬ service.order.Sorts sort → page = found)

theorem result_send (service : SearchService) (s : Selection) (answer : Value) :
    (service.send s (.ok (.value answer))).result =
      match Index.Client.readMatches answer with
      | .error m => .error (.index (.misuse m))
      | .ok found => (service.order.arrange (metadataPrice ·.metadata) s.sort found).mapError
          .sorting := by
  have hRead : (Index.Client.query (service.query s).call (.value answer)).result =
      (Index.Client.readMatches answer).mapError .misuse := rfl
  rw [send, hRead]
  cases Index.Client.readMatches answer <;> rfl

/-- What becomes of a fault ends a search with an accepted payload. -/
theorem result_search_fault (service : SearchService) {payload : Value} {s : Selection}
    (h : Selection.parse payload = .ok s) (f : Index.Fault) :
    (service.search payload (.ok (.fault f))).result = .error (.index (.ofFault "query" f)) := by
  rw [search, h]
  rfl

theorem forall_hasPrice_iff {items : List Value} {found : List Match}
    (h : List.Forall₂ (fun item m => Match.ofItem item = .ok m) items found) :
    (∀ m ∈ found, ∃ x, metadataPrice m.metadata = .ok x) ↔
      ∀ item ∈ items, HasPrice (Match.metadataOf item) := by
  induction h with
  | nil => simp
  | cons hHead _ ih =>
    rw [List.forall_mem_cons, List.forall_mem_cons, ih, exists_metadataPrice_iff,
      Match.metadata_of_ofItem hHead]

/-- A value that the index returns makes a page if its matches can be read and, where that is wanted,
sorted. Otherwise the search ends by a misuse of that value. -/
theorem result_search_value (service : SearchService) {payload : Value} {s : Selection}
    (h : Selection.parse payload = .ok s) (answer : Value) :
    ((∃ page, (service.search payload (.ok (.value answer))).result = .ok page) ↔
      service.CanPage s.sort answer) ∧
    (∀ page, (service.search payload (.ok (.value answer))).result = .ok page →
      service.IsPage s.sort answer page) ∧
    ((∃ page, (service.search payload (.ok (.value answer))).result = .ok page) ∨ ∃ m,
      (service.search payload (.ok (.value answer))).result = .error (.index (.misuse m)) ∨
      (service.search payload (.ok (.value answer))).result = .error (.sorting m)) := by
  rw [search, h]
  dsimp only
  rw [result_send]
  cases hRead : Index.Client.readMatches answer with
  | error m =>
    dsimp only
    refine ⟨iff_of_false (by simp) ?_, by simp, .inr ⟨m, .inl rfl⟩⟩
    rintro ⟨items, hItems, hReadable, -⟩
    obtain ⟨found, hFound⟩ := exists_mapM_iff.2 fun item hItem =>
      Match.exists_ofItem_iff.2 (hReadable item hItem)
    rw [Index.Client.readMatches_eq_ok_iff.2 ⟨items, hItems, mapM_eq_ok_iff.1 hFound⟩] at hRead
    cases hRead
  | ok found =>
    dsimp only
    obtain ⟨items, hItems, hEach⟩ := Index.Client.readMatches_eq_ok_iff.1 hRead
    have hReadable : ∀ item ∈ items, Match.IsReadable item := fun item hItem =>
      Match.exists_ofItem_iff.1 (exists_mapM_iff.1 ⟨found, mapM_eq_ok_iff.2 hEach⟩ item hItem)
    refine ⟨?_, ?_, ?_⟩
    · simp only [mapError_eq_ok_iff, ResultOrder.exists_arrange_iff, forall_hasPrice_iff hEach]
      constructor
      · intro hPrices
        exact ⟨items, hItems, hReadable, hPrices⟩
      · rintro ⟨items', hItems', -, hPrices⟩
        cases hItems.symm.trans hItems'
        exact hPrices
    · intro page hPage
      obtain ⟨hPerm, hSame⟩ := ResultOrder.arrange_perm (mapError_eq_ok_iff.1 hPage)
      exact ⟨items, found, hItems, hEach, hPerm, hSame⟩
    · cases service.order.arrange (metadataPrice ·.metadata) s.sort found with
      | ok page => exact .inl ⟨page, rfl⟩
      | error m => exact .inr ⟨m, .inr rfl⟩

/-- A selection that asks for an order of prices. -/
def cheapestShirts : Selection where
  colors := [.blue]
  sizes := [.medium]
  price := ⟨⟨.zero, rfl⟩, .one, by decide +kernel, rfl⟩
  sort := .priceAscending

theorem parse_cheapestShirts : Selection.parse cheapestShirts.toValue = .ok cheapestShirts :=
  Selection.parse_toValue rfl rfl

/-- A match that has a score and no id. -/
def namelessMatch : Fields := [("score", .float .one)]

theorem result_search_namelessMatch (service : SearchService) :
    (service.search cheapestShirts.toValue
      (.ok (.value (.list ([namelessMatch].map .object))))).result =
        .error (.index (.misuse (.noMember Match.memberOwner "id"))) := by
  rw [search, parse_cheapestShirts]
  dsimp only
  rw [result_send]
  rfl

/-- A list of objects as an answer, for which a search has no page and no failure of the backend. -/
theorem not_page_or_failure :
    ¬ ∀ (env : Settings.Environment) (settings : Settings) (service : SearchService)
        (payload : Value) (s : Selection) (items : List Fields),
      Settings.fromEnvironment env = .ok settings → ofSettings settings = .ok service →
      Selection.parse payload = .ok s →
      (∃ page, (service.search payload (.ok (.value (.list (items.map .object))))).result =
        .ok page) ∨
      ∃ e, (service.search payload (.ok (.value (.list (items.map .object))))).result =
        .error (.index (.backend e)) := by
  intro hAll
  obtain ⟨settings, hSettings, -⟩ := Settings.exists_shop
  obtain ⟨service, hService⟩ := exists_ofSettings hSettings
  obtain ⟨page, hPage⟩ | ⟨e, hFailure⟩ :=
    hAll _ settings service _ _ [namelessMatch] hSettings hService parse_cheapestShirts
  · rw [result_search_namelessMatch] at hPage
    cases hPage
  · rw [result_search_namelessMatch] at hFailure
    cases hFailure

/-- Of the values that the index may return, exactly those that can be paged end a search with a page
or with a failure of the backend, and they end it with the page of their matches. The others end the
search by a misuse of what was returned. Either way one query was sent. -/
theorem page_or_failure_iff (service : SearchService) {payload : Value} {s : Selection}
    (h : Selection.parse payload = .ok s) (answer : Value) :
    (((∃ page, (service.search payload (.ok (.value answer))).result = .ok page) ∨
        ∃ e, (service.search payload (.ok (.value answer))).result =
          .error (.index (.backend e))) ↔ service.CanPage s.sort answer) ∧
    (service.CanPage s.sort answer → ∃ page,
      (service.search payload (.ok (.value answer))).result = .ok page ∧
        service.IsPage s.sort answer page) ∧
    (¬ service.CanPage s.sort answer → ∃ m,
      (service.search payload (.ok (.value answer))).result = .error (.index (.misuse m)) ∨
      (service.search payload (.ok (.value answer))).result = .error (.sorting m)) ∧
    (service.search payload (.ok (.value answer))).calls = [.query (service.query s).call] := by
  obtain ⟨hPage, hContent, hOtherwise⟩ := service.result_search_value h answer
  have hNoFailure : ¬ ∃ e, (service.search payload (.ok (.value answer))).result =
      .error (.index (.backend e)) := by
    rintro ⟨e, hFailure⟩
    obtain ⟨page, hOk⟩ | ⟨m, hMisuse | hMisuse⟩ := hOtherwise
    · rw [hFailure] at hOk
      cases hOk
    · rw [hFailure] at hMisuse
      cases hMisuse
    · rw [hFailure] at hMisuse
      cases hMisuse
  refine ⟨?_, ?_, ?_, service.calls_search h _⟩
  · rw [or_iff_left hNoFailure]
    exact hPage
  · intro hCanPage
    obtain ⟨page, hOk⟩ := hPage.2 hCanPage
    exact ⟨page, hOk, hContent page hOk⟩
  · intro hNot
    exact hOtherwise.resolve_left fun hOk => hNot (hPage.1 hOk)

/-- A service that sorts its pages. -/
def sortingService : SearchService := ⟨⟨.metadata, .int 25, .int 50⟩, 12⟩

/-- An answer with a price that is written in a text, and with a match that has no metadata. -/
def mixedAnswer : Value :=
  .list
    [.object [("id", .int 7), ("score", .null), ("metadata", .object [("price", .text "12.5")])],
     .object [("score", .float .one), ("vector", .text "xy"), ("id", .text "blue-M-1")]]

theorem page_of_mixedAnswer :
    ∃ page, (sortingService.search cheapestShirts.toValue (.ok (.value mixedAnswer))).result =
        .ok page ∧ sortingService.IsPage .priceAscending mixedAnswer page := by
  have hCanPage : sortingService.CanPage .priceAscending mixedAnswer := by
    refine ⟨_, rfl, ?_, fun _ => ?_⟩
    · intro item hItem
      simp only [List.mem_cons, List.not_mem_nil, or_false] at hItem
      obtain rfl | rfl := hItem
      · exact ⟨_, rfl, rfl, rfl, by rintro _ ⟨⟩⟩
      · exact ⟨_, rfl, rfl, rfl, fun _ h => .inr (by cases h; trivial)⟩
    · intro item hItem
      simp only [List.mem_cons, List.not_mem_nil, or_false] at hItem
      obtain rfl | rfl := hItem
      · refine .inr ⟨[("price", .text "12.5")], rfl, fun _ h => ?_⟩
        cases h
        show (Binary64.readLoose? "12.5").isSome = true
        decide +kernel
      · exact .inl rfl
  obtain ⟨-, hPage, -, -⟩ :=
    sortingService.page_or_failure_iff parse_cheapestShirts mixedAnswer
  exact hPage hCanPage

end SearchService

end Storefront
