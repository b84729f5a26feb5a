import Mathlib
import Storefront.Proofs.Api.Products
import Storefront.Proofs.Api.Sending
import Storefront.Proofs.Api.Wording
import Storefront.Proofs.Search.Pages

/-!
# Answers to searches

A request for products is answered with what the search service says about its payload: the reason
of a rejection, the page that was found, or nothing but that the backend failed.

* `SearchResult.check_toValue`: a result is read back from the value that shows it.
* `SearchResult.IsPlain`, `Handler.resultsResponse_of_isPlain`: results that are sent as they are.
* `SearchResult.IsShownBy`, `SearchService.exists_page`: the page of an answer with such results.
* `Answers`: what the service says about a payload is what is sent.
* `App.answers_of_run`: in a run each request for products is answered so, whatever came before it.
-/

namespace Storefront

open Index (BackendError Connection Match Reply)
open Validation (Checked)

/-! ## Results -/

namespace SearchResult

open Api.Sending (IsScalar AreScalars)

/-- The match that a result shows. -/
def toMatch (r : SearchResult) : Match :=
  ⟨r.id.toValue, .float r.score, r.vectorValue, r.metadataValue⟩

theorem check_id (id : MatchId) : MatchId.check id.toValue = .ok id := by
  cases id <;> rfl

theorem checkVector_vectorValue (r : SearchResult) : checkVector r.vectorValue = .ok r.vector := by
  rw [vectorValue]
  cases r.vector with
  | none => rfl
  | some xs =>
    have hItems : Checked.items (fun item => Checked.ofFlaw (Validation.double item))
        (xs.map Value.float) = .ok xs := by
      rw [Checked.items_eq_ok_iff, List.forall₂_map_left_iff, List.forall₂_same]
      exact fun _ _ => rfl
    rw [Option.map_some, Option.getD_some, checkVector, hItems]
    rfl

theorem checkMetadata_metadataValue (r : SearchResult) :
    checkMetadata r.metadataValue = .ok r.metadata := by
  rw [metadataValue]
  cases r.metadata <;> rfl

/-- A result is read back from the value that shows it. -/
theorem check_toValue (r : SearchResult) : check r.toValue = .ok r := by
  have hId : Checked.under (.field "id") (MatchId.check r.id.toValue) = .ok r.id :=
    Checked.under_eq_ok_iff.2 (check_id r.id)
  have hVector : Checked.under (.field "vector") (checkVector r.vectorValue) = .ok r.vector :=
    Checked.under_eq_ok_iff.2 r.checkVector_vectorValue
  have hMetadata : Checked.under (.field "metadata") (checkMetadata r.metadataValue) =
      .ok r.metadata :=
    Checked.under_eq_ok_iff.2 r.checkMetadata_metadataValue
  rw [toValue, check, Checked.ap_eq_ok_iff]
  refine ⟨_, r.metadata, Checked.ap_eq_ok_iff.2 ⟨_, r.vector, Checked.ap_eq_ok_iff.2
    ⟨_, r.score, Checked.ap_eq_ok_iff.2 ⟨_, r.id, rfl, ?_, rfl⟩, ?_, rfl⟩, ?_, rfl⟩, ?_, rfl⟩
  · exact hId
  · rfl
  · exact hVector
  · exact hMetadata

/-- The parts of the result are texts and numbers that are sent as they are, and there is a number
where a price is expected. -/
structure IsPlain (r : SearchResult) : Prop where
  id : IsScalar r.id.toValue
  score : r.score.isFinite = true
  vector : ∀ xs, r.vector = some xs → ∀ x ∈ xs, x.isFinite = true
  metadata : ∀ fields, r.metadata = some fields → AreScalars fields
  price : HasPrice r.metadataValue

namespace IsPlain

open Api.Sending

variable {r : SearchResult}

theorem prepare_vectorValue (h : r.IsPlain) : prepare r.vectorValue = .ok r.vectorValue := by
  rw [vectorValue, prepare]
  cases hVector : r.vector with
  | none => rw [Option.map_none, Option.getD_none, prepareWithin_null]
  | some xs =>
    have hScalars : ∀ v ∈ xs.map Value.float, IsScalar v := by
      intro v hv
      obtain ⟨x, hx, rfl⟩ := List.mem_map.1 hv
      exact h.vector xs hVector x hx
    rw [Option.map_some, Option.getD_some, prepareWithin, if_neg (by decide),
      prepareItems_of_isScalar hScalars]
    rfl

theorem prepare_metadataValue (h : r.IsPlain) : prepare r.metadataValue = .ok r.metadataValue := by
  rw [metadataValue, prepare]
  cases hMetadata : r.metadata with
  | none => rw [Option.map_none, Option.getD_none, prepareWithin_null]
  | some fields =>
    rw [Option.map_some, Option.getD_some, prepareWithin, if_neg (by decide),
      prepareFields_of_areScalars (h.metadata fields hMetadata)]
    rfl

theorem sendResult (h : r.IsPlain) : Api.Handler.sendResult r = .ok r.toValue := by
  have hScore : IsScalar (.float r.score) := h.score
  rw [Api.Handler.sendResult, prepare, prepareWithin_of_isScalar h.id, prepare,
    prepareWithin_of_isScalar hScore, h.prepare_vectorValue, h.prepare_metadataValue]
  rfl

end IsPlain

end SearchResult

/-- Plain results are sent as they are. -/
theorem Api.Handler.resultsResponse_of_isPlain {results : List SearchResult}
    (h : ∀ r ∈ results, r.IsPlain) :
    resultsResponse (results.map SearchResult.toMatch) =
      .ok (.ofJson 200 (.list (results.map SearchResult.toValue))) := by
  have hChecked : Checked.items SearchResult.check
      ((results.map SearchResult.toMatch).map Match.toValue) = .ok results := by
    rw [List.map_map, Checked.items_eq_ok_iff, List.forall₂_map_left_iff, List.forall₂_same]
    exact fun r _ => r.check_toValue
  have hSent : results.mapM sendResult = .ok (results.map SearchResult.toValue) := by
    rw [mapM_eq_ok_iff, List.forall₂_map_right_iff, List.forall₂_same]
    exact fun r hr => (h r hr).sendResult
  rw [resultsResponse, hChecked]
  dsimp only
  rw [hSent]
  rfl

/-! ## Pages -/

namespace SearchResult

/-- The item of an answer has the parts of the result, or nothing or null where there is none. -/
def IsShownBy (r : SearchResult) (item : Value) : Prop :=
  ∃ fields : Fields, item = .object fields ∧ fields.get? "id" = some r.id.toValue ∧
    fields.get? "score" = some (.float r.score) ∧
    (fields.get? "vector").getD .null = r.vectorValue ∧
    (fields.get? "metadata").getD .null = r.metadataValue

variable {r : SearchResult} {item : Value}

theorem IsShownBy.metadataOf (h : r.IsShownBy item) : Match.metadataOf item = r.metadataValue := by
  obtain ⟨fields, rfl, -, -, -, hMetadata⟩ := h
  exact hMetadata

theorem IsShownBy.ofItem (h : r.IsShownBy item) : Match.ofItem item = .ok r.toMatch := by
  obtain ⟨fields, rfl, hId, hScore, hVector, hMetadata⟩ := h
  have hRead : Match.vectorOf (.object fields) = .ok r.vectorValue := by
    rw [Match.vectorOf, Value.field?, hVector, vectorValue]
    cases r.vector <;> rfl
  rw [Match.ofItem, Match.member, hId, Match.member, hScore, hRead, Value.field?, hMetadata]
  rfl

end SearchResult

/-- An answer that shows plain results makes a page of them. -/
theorem SearchService.exists_page (service : SearchService) {payload : Value} {s : Selection}
    (hParse : Selection.parse payload = .ok s) {items : List Value} {results : List SearchResult}
    (hShown : List.Forall₂ (fun item r => SearchResult.IsShownBy r item) items results)
    (hPlain : ∀ r ∈ results, r.IsPlain) :
    ∃ page : List SearchResult, page.Perm results ∧
      (¬ service.order.Sorts s.sort → page = results) ∧
      (service.search payload (.ok (.value (.list items)))).result =
        .ok (page.map SearchResult.toMatch) := by
  obtain ⟨hPage, hContent, -⟩ := service.result_search_value hParse (.list items)
  have hRead : List.Forall₂ (fun item m => Match.ofItem item = .ok m) items
      (results.map SearchResult.toMatch) := by
    rw [List.forall₂_map_right_iff]
    exact hShown.imp fun _ _ h => h.ofItem
  have hCanPage : service.CanPage s.sort (.list items) := by
    refine ⟨items, rfl, ?_, fun _ => ?_⟩
    · intro item hItem
      exact Match.exists_ofItem_iff.1 (exists_mapM_iff.1 ⟨_, mapM_eq_ok_iff.2 hRead⟩ item hItem)
    · refine (forall_hasPrice_iff hRead).1 ?_
      intro m hm
      obtain ⟨r, hr, rfl⟩ := List.mem_map.1 hm
      exact exists_metadataPrice_iff.2 (hPlain r hr).price
  obtain ⟨matched, hMatched⟩ := hPage.2 hCanPage
  obtain ⟨items', found, hItems, hFound, hPerm, hSame⟩ := hContent matched hMatched
  cases hItems
  have hUnique : found = results.map SearchResult.toMatch :=
    Except.ok.inj ((mapM_eq_ok_iff.2 hFound).symm.trans (mapM_eq_ok_iff.2 hRead))
  rw [hUnique] at hPerm hSame
  by_cases hSorts : service.order.Sorts s.sort
  · obtain ⟨page, hPage, hPagePerm⟩ :
        Relation.Comp (· = List.map SearchResult.toMatch ·) List.Perm matched results := by
      rw [List.eq_map_comp_perm]
      exact hPerm
    exact ⟨page, hPagePerm, fun hNot => absurd hSorts hNot, hPage ▸ hMatched⟩
  · exact ⟨results, .refl results, fun _ => rfl, hSame hSorts ▸ hMatched⟩

/-! ## Answers -/

namespace Api

/-- What is sent is what the service says about the payload. Whoever calls is told why a payload is
rejected, in a message that can be sent, and that is all that happens; about a failure of the backend
nothing is told; and plain results are sent as they are, on the page on which the service has found
them. -/
structure Answers (service : SearchService) (payload : Value) (reply : Reply) (e : Exchange) :
    Prop where
  rejected : ∀ err, Selection.parse payload = .error err → err.label ∈ Selection.rejections →
    Sending.IsUnicode err.message ∧
      e.Sends 422 (.json (.object [("message", .text err.message)])) ∧ e.calls = []
  failed : ∀ s err, Selection.parse payload = .ok s →
    (Index.Client.query (service.query s).call reply).result = .error (.backend err) →
    e.Sends 500 (.json (.object [("message", .text "Internal server error")]))
  found : ∀ s items results, Selection.parse payload = .ok s → reply = .value (.list items) →
    List.Forall₂ (fun item r => SearchResult.IsShownBy r item) items results →
    (∀ r ∈ results, r.IsPlain) →
    ∃ page : List SearchResult, page.Perm results ∧
      (¬ service.order.Sorts s.sort → page = results) ∧
      (service.search payload (.ok reply)).result = .ok (page.map SearchResult.toMatch) ∧
      e.Sends 200 (.json (.list (page.map SearchResult.toValue)))

namespace App

variable {s : Settings} {service : SearchService} {a : Arrival} {payload : Value}

/-- The handler concludes a search of the service. -/
theorem productsOf_eq_conclude (hService : SearchService.ofSettings s = .ok service)
    (hConfigured : s.indexConfigured = true) (h : a.request.BringsJson payload) :
    Handler.productsOf s a.request a.replies.query =
      Handler.conclude (service.search payload (.ok a.replies.query)) := by
  rw [Handler.productsOf_of_payload (Payload.read_of_bringsJson h),
    Handler.searchOf_of_service hService, Handler.map_make_of_configured hConfigured]

theorem answers_exchange (hService : SearchService.ofSettings s = .ok service)
    (hConfigured : s.indexConfigured = true) (hAsks : a.request.AsksProducts)
    (hJson : a.request.BringsJson payload) :
    Answers service payload a.replies.query (exchange s a) := by
  have hHandled := productsOf_eq_conclude hService hConfigured hJson
  constructor
  case rejected =>
    intro err hParse hLabel
    have hRejection : err.isRejection = true := by
      cases err with
      | priceTooLarge => exact absurd rfl (Selection.label_mem_rejections_iff.1 hLabel)
      | notAnObject | unknownName _ | invalid _ => rfl
    rw [Selection.search_of_parse_error service hParse] at hHandled
    have hResult : (Handler.productsOf s a.request a.replies.query).result =
        .ok (.ofMessage 422 err.message) := by
      rw [hHandled, Handler.conclude, Handler.outcome]
      dsimp only
      rw [if_pos hRejection]
    have hCalls := calls_of_asksProducts (s := s) hAsks
    rw [hHandled] at hCalls
    exact ⟨Selection.isUnicode_message hParse, sends_of_result hAsks hResult, hCalls⟩
  case failed =>
    intro sel err hParse hFailed
    have hSearch : (service.search payload (.ok a.replies.query)).result =
        .error (.index (.backend err)) := by
      rw [SearchService.search, hParse]
      dsimp only
      rw [SearchService.send, hFailed]
    have hResult : (Handler.productsOf s a.request a.replies.query).result =
        .ok (.ofMessage 500 Handler.internalError) := by
      rw [hHandled, Handler.conclude, hSearch]
      rfl
    exact sends_of_result hAsks hResult
  case found =>
    intro sel items results hParse hReply hShown hPlain
    obtain ⟨page, hPerm, hSame, hSearch⟩ := service.exists_page hParse hShown hPlain
    rw [← hReply] at hSearch
    have hResult : (Handler.productsOf s a.request a.replies.query).result =
        .ok (.ofJson 200 (.list (page.map SearchResult.toValue))) := by
      rw [hHandled, Handler.conclude, hSearch, Handler.outcome,
        Handler.resultsResponse_of_isPlain fun r hr => hPlain r (hPerm.subset hr)]
    exact ⟨page, hPerm, hSame, hSearch, sends_of_result hAsks hResult⟩

def blueShirt : SearchResult :=
  ⟨.text "blue-M-1", .one, none, some [("price", .float .one), ("stock", .int 3)]⟩

def isNoObject : Except SelectionError Selection → Bool
  | .error .notAnObject => true
  | _ => false

/-- A request that is rejected, one for which the index is too slow, and one that finds a shirt. -/
def shoppers : List Arrival :=
  [⟨shopRequest "[]", "1", .value .null, .value .null⟩,
   ⟨shopRequest anyShirts, "2", .fault ⟨.timeout .read, "slow"⟩, .value .null⟩,
   ⟨shopRequest anyShirts, "3", .value (.list [blueShirt.toValue]), .value .null⟩]

theorem isPlain_blueShirt : blueShirt.IsPlain := by
  have hFinite : Binary64.one.isFinite = true := by decide +kernel
  refine ⟨Sending.isUnicode_ofString "blue-M-1", hFinite, by rintro _ ⟨⟩, ?_, .inr ⟨_, rfl, ?_⟩⟩
  · rintro fields ⟨⟩ f hf
    simp only [List.mem_cons, List.not_mem_nil, or_false] at hf
    obtain rfl | rfl := hf
    · exact ⟨Sending.isUnicode_ofString "price", hFinite⟩
    · exact ⟨Sending.isUnicode_ofString "stock", trivial⟩
  · rintro price ⟨⟩
    trivial

end App

end Api

end Storefront
