import Mathlib
import Storefront.Proofs.Api.Products
import Storefront.Proofs.Api.State

/-!
# Readiness

Whether the service is ready, what the state of its index is, and whether searches get to the index
are found out in different places, and all three go by the same settings. The report about the state
repeats the name of the environment, so it is missing where that name cannot be written.

* `Fits`: what has to come of a request where the service is ready, or where it is not.
* `App.saysReady_iff`, `App.saysNotConfigured_iff`: the two answers about the service.
* `App.calls_of_not_configured`: what is not sent.
* `App.not_fits`: two answers that do not fit each other.
* `App.fits_iff`: what comes of the requests of a run.
-/

namespace Storefront.Api

open Index (Call Connection Reply)

/-! ## What fits -/

/-- Whoever asks is told that the service is ready. -/
def Exchange.SaysReady (e : Exchange) : Prop :=
  e.Sends 200 (.json (.object [("status", .text "ready")]))

/-- The status of the index in a report. -/
def indexStatus? (report : Value) : Option Value := do
  let checks ← report.field? "checks"
  let index ← checks.field? "vector_index"
  index.field? "status"

/-- Whoever asks is told that no index is configured. -/
def Exchange.SaysNotConfigured (e : Exchange) : Prop :=
  ∃ report, e.response.body = .json report ∧ indexStatus? report = some (.text "not_configured")

/-- The request brings a payload to be searched by that is accepted. -/
def Request.BringsSelection (s : Settings) (r : Request) : Prop :=
  r.Asks s .products ∧
    ∃ payload sel, Payload.read r = .ok payload ∧ Selection.parse payload = .ok sel

/-- What comes of a request fits a service that is ready, or one that is not. -/
structure Fits (s : Settings) (ready : Prop) (a : Arrival) (e : Exchange) : Prop where
  readiness : a.request.Asks s .ready → (e.SaysReady ↔ ready)
  state : a.request.Asks s .detailedHealth → (e.SaysNotConfigured ↔ ¬ ready)
  search : a.request.BringsSelection s → ((∃ q, Call.query q ∈ e.calls) ↔ ready)
  refusal : a.request.BringsSelection s → ¬ ready →
    e.Sends 500 (.json (.object [("message", .text "Internal server error")]))
  silence : ¬ ready → e.calls = []

variable {s : Settings}

/-! ## Answers about the service -/

namespace Handler

theorem indexStatus?_reportOf (status : String) (environment : Text) (count error : Value) :
    indexStatus? (reportOf status environment count error) = some (.text status) :=
  rfl

/-- Every report says whether an index is configured. -/
theorem indexStatus?_of_stateOf {reply : Reply} {response : Response}
    (h : (stateOf s reply).result = .ok response) :
    ∃ report, response = .ofJson 200 report ∧
      (indexStatus? report = some (.text "not_configured") ↔ ¬ s.indexConfigured = true) := by
  obtain ⟨index, hReport, hStatus⟩ := exists_report_of_stateOf h
  obtain ⟨environment, count, error, -, -, -, rfl⟩ := report_eq_ok_iff.1 hReport
  refine ⟨_, rfl, ?_⟩
  rw [indexStatus?_reportOf, Option.some_inj, Value.text.injEq, Text.ofString_inj, hStatus]

end Handler

namespace App

open Sending (IsUnicode)

variable {a : Arrival}

theorem saysReady_iff (h : a.request.Asks s .ready) :
    (exchange s a).SaysReady ↔ s.indexConfigured = true := by
  obtain ⟨hStatus, hBody⟩ := sends_of_asks h (by decide) rfl
  rw [Exchange.SaysReady, Exchange.Sends, hStatus, hBody]
  by_cases hConfigured : s.indexConfigured = true
  · rw [if_pos hConfigured]
    exact iff_of_true ⟨rfl, rfl⟩ hConfigured
  · rw [if_neg hConfigured]
    refine iff_of_false ?_ hConfigured
    rintro ⟨-, hSame⟩
    cases hSame

/-- The state of the service says that no index is configured where none is, if the name of the
environment can be written. -/
theorem saysNotConfigured_iff (h : a.request.Asks s .detailedHealth) :
    (exchange s a).SaysNotConfigured ↔ ¬ s.indexConfigured = true ∧ IsUnicode s.environment := by
  have hCanReport : (∃ response, (Handler.stateOf s a.replies.info).result = .ok response) ↔
      Handler.CanReport s a.replies.info := Handler.exists_stateOf_iff
  rw [Exchange.SaysNotConfigured]
  cases hResult : (Handler.stateOf s a.replies.info).result with
  | ok response =>
    obtain ⟨report, rfl, hStatus⟩ := Handler.indexStatus?_of_stateOf hResult
    obtain ⟨-, hBody⟩ := sends_of_asks h (by decide) hResult
    obtain ⟨hUnicode, -⟩ := hCanReport.1 ⟨_, hResult⟩
    have hSame : (exchange s a).response.body = .json report := hBody
    rw [hSame, and_iff_left hUnicode, ← hStatus]
    constructor
    · rintro ⟨_, ⟨⟩, hSays⟩
      exact hSays
    · intro hSays
      exact ⟨report, rfl, hSays⟩
  | error crash =>
    rw [fails_of_asks h hResult]
    refine iff_of_false ?_ ?_
    · rintro ⟨report, hText, -⟩
      cases hText
    · rintro ⟨hNotConfigured, hUnicode⟩
      obtain ⟨response, hOk⟩ :=
        hCanReport.2 ⟨hUnicode, fun hConfigured => absurd hConfigured hNotConfigured⟩
      rw [hResult] at hOk
      cases hOk

end App

/-! ## Searches -/

namespace Handler

variable {service : SearchService} {payload : Value} {sel : Selection}

theorem make_of_not_configured (h : ¬ s.indexConfigured = true) :
    ∃ e, Connection.make "" "" s = .error e := by
  cases hMake : Connection.make "" "" s with
  | ok c => exact absurd (Connection.exists_make_iff.1 ⟨c, hMake⟩) h
  | error e => exact ⟨e, rfl⟩

theorem calls_searchOf_of_not_configured (h : ¬ s.indexConfigured = true) (payload : Value)
    (reply : Reply) : (searchOf s payload reply).calls = [] := by
  obtain ⟨e, hMake⟩ := make_of_not_configured h
  rw [searchOf]
  split
  · rfl
  · rename_i service _
    rw [hMake]
    have hCalls : (service.search payload (.error e)).calls = [] := by
      cases hParse : Selection.parse payload with
      | error _ => rw [Selection.search_of_parse_error service hParse]
      | ok sel => rw [service.search_of_no_client hParse]
    exact hCalls

theorem result_searchOf_of_not_configured (hService : SearchService.ofSettings s = .ok service)
    (h : ¬ s.indexConfigured = true) (hParse : Selection.parse payload = .ok sel) (reply : Reply) :
    (searchOf s payload reply).result = .ok (.ofMessage 500 internalError) := by
  obtain ⟨e, hMake⟩ := make_of_not_configured h
  have hSearch : (service.search payload (.error e)).result = .error (.index (.backend e)) := by
    rw [service.search_of_no_client hParse]
  rw [searchOf_of_service hService, hMake, conclude]
  change (outcome (service.search payload (.error e)).result).2 = _
  rw [hSearch]
  rfl

theorem calls_searchOf_of_configured (hService : SearchService.ofSettings s = .ok service)
    (h : s.indexConfigured = true) (hParse : Selection.parse payload = .ok sel) (reply : Reply) :
    (searchOf s payload reply).calls = [.query (service.query sel).call] := by
  rw [searchOf_of_service hService, map_make_of_configured h]
  exact service.calls_search hParse reply

end Handler

namespace App

open Sending (IsUnicode)

variable {a : Arrival} {service : SearchService}

/-- Where no index is configured no request makes a call. -/
theorem calls_of_not_configured (h : ¬ s.indexConfigured = true) (a : Arrival) :
    (exchange s a).calls = [] := by
  obtain hState | hSearch | ⟨response, hAnswer⟩ := asks_or_responds s a.request a.replies
  · rw [calls_of_asks hState, serveOf, Handler.stateOf_of_not_configured h]
  · rw [calls_of_asks hSearch, serveOf, Handler.productsOf]
    split
    · exact Handler.calls_searchOf_of_not_configured h _ _
    · rfl
  · rw [calls_exchange, hAnswer]
    rfl

/-- A search that is accepted gets to the index exactly if there is one. -/
theorem queries_iff (hService : SearchService.ofSettings s = .ok service)
    (h : a.request.BringsSelection s) :
    (∃ q, Call.query q ∈ (exchange s a).calls) ↔ s.indexConfigured = true := by
  obtain ⟨hAsks, payload, sel, hPayload, hParse⟩ := h
  by_cases hConfigured : s.indexConfigured = true
  · refine iff_of_true ⟨(service.query sel).call, ?_⟩ hConfigured
    rw [calls_of_asks hAsks, serveOf, Handler.productsOf_of_payload hPayload,
      Handler.calls_searchOf_of_configured hService hConfigured hParse]
    exact List.mem_singleton_self _
  · refine iff_of_false ?_ hConfigured
    rintro ⟨q, hCall⟩
    rw [calls_of_not_configured hConfigured a] at hCall
    cases hCall

theorem refuses_of_not_configured (hService : SearchService.ofSettings s = .ok service)
    (h : a.request.BringsSelection s) (hNotConfigured : ¬ s.indexConfigured = true) :
    (exchange s a).Sends 500 (.json (.object [("message", .text "Internal server error")])) := by
  obtain ⟨hAsks, payload, sel, hPayload, hParse⟩ := h
  have hResult : (serveOf s a.request a.replies .products).result =
      .ok (.ofMessage 500 Handler.internalError) := by
    rw [serveOf, Handler.productsOf_of_payload hPayload,
      Handler.result_searchOf_of_not_configured hService hNotConfigured hParse]
  exact sends_of_asks hAsks (by decide) hResult

/-! ## Runs -/

/-- The state of an index that is not configured is asked for, and cannot be reported. -/
def HidesState (s : Settings) (a : Arrival) : Prop :=
  a.request.Asks s .detailedHealth ∧ ¬ s.indexConfigured = true ∧ ¬ IsUnicode s.environment

theorem fits_exchange_iff (hService : SearchService.ofSettings s = .ok service) :
    Fits s (s.indexConfigured = true) a (exchange s a) ↔ ¬ HidesState s a := by
  constructor
  · rintro hFits ⟨hAsks, hNotConfigured, hNotUnicode⟩
    exact hNotUnicode ((saysNotConfigured_iff hAsks).1 ((hFits.state hAsks).2 hNotConfigured)).2
  · intro hShown
    refine ⟨saysReady_iff, fun hAsks => ?_, queries_iff hService,
      refuses_of_not_configured hService,
      fun hNotConfigured => calls_of_not_configured hNotConfigured a⟩
    rw [saysNotConfigured_iff hAsks]
    refine and_iff_left_of_imp fun hNotConfigured => ?_
    by_contra hNotUnicode
    exact hShown ⟨hAsks, hNotConfigured, hNotUnicode⟩

/-- A request that asks whether the service is ready. -/
def readyRequest : Request := ⟨"GET", "/ready", [], []⟩

theorem asks_readyRequest (s : Settings) : readyRequest.Asks s .ready := by
  have hServed : ("/ready", Endpoint.ready) ∈ Route.served := by decide
  exact Request.asks_of_mem_served hServed (Route.path_of_mem_served hServed)
    ⟨"GET", List.mem_singleton_self _, rfl⟩

/-- A request to which the index does not matter. -/
def askedOnce (request : Request) : Arrival := ⟨request, "1", .value .null, .value .null⟩

/-- The name of an environment with a byte in it that does not belong to any text in UTF-8. -/
def brokenName : Text := [.char 'c', .char 'a', .char 'f', .half ⟨0x4E9, by decide⟩]

/-- The service says that it is not ready, and does not say that no index is configured. -/
theorem not_fits : ¬ ∀ (env : Settings.Environment) (s : Settings) (arrivals : List Arrival),
    Settings.fromEnvironment env = .ok s →
      ∃ ready, List.Forall₂ (Fits s ready) arrivals ((start s).1.run arrivals) := by
  intro hAll
  have hBroken : (Settings.fromEnvironment [("ENVIRONMENT", brokenName)]).toOption.map
      (fun s => (s.indexConfigured, s.environment)) = some (false, brokenName) := by
    decide +kernel
  obtain ⟨s, hSettings, hBoth⟩ := Settings.exists_of_toOption hBroken
  obtain ⟨hNotConfigured, hEnvironment⟩ := Prod.mk.inj hBoth
  obtain ⟨ready, hRun⟩ := hAll _ s [askedOnce readyRequest, askedOnce stateRequest] hSettings
  rw [run_start] at hRun
  obtain _ | ⟨hReady, _ | ⟨hState, -⟩⟩ := hRun
  have hAsksReady : (askedOnce readyRequest).request.Asks s .ready := asks_readyRequest s
  have hAsksState : (askedOnce stateRequest).request.Asks s .detailedHealth := asks_stateRequest s
  have hNotReady : ¬ ready := by
    intro h
    have hConfigured := (saysReady_iff hAsksReady).1 ((hReady.readiness hAsksReady).2 h)
    rw [hNotConfigured] at hConfigured
    cases hConfigured
  have hSays := (hState.state hAsksState).2 hNotReady
  obtain ⟨-, hUnicode⟩ := (saysNotConfigured_iff hAsksState).1 hSays
  rw [hEnvironment] at hUnicode
  exact absurd (hUnicode (.half ⟨0x4E9, by decide⟩) (by decide)) (by decide)

/-- In a run with settings from the environment, what comes of a request fits a service that is ready
exactly if its index is configured, unless the state of the index is hidden: none is configured, and
the name of the environment cannot be written. -/
theorem fits_iff {env : Settings.Environment} (hSettings : Settings.fromEnvironment env = .ok s)
    (arrivals : List Arrival) :
    List.Forall₂ (fun a e => Fits s (s.indexConfigured = true) a e ↔ ¬ HidesState s a)
      arrivals ((start s).1.run arrivals) := by
  obtain ⟨service, hService⟩ := SearchService.exists_ofSettings hSettings
  rw [run_start, List.forall₂_map_right_iff, List.forall₂_same]
  intro a _
  exact fits_exchange_iff hService

/-- Without an index the service is not ready, says so, and refuses searches. -/
theorem fits_of_noIndex : ∃ s e₁ e₂ e₃, Settings.fromEnvironment [] = .ok s ∧
    (start s).1.run
        [askedOnce readyRequest, askedOnce stateRequest, askedOnce (shopRequest anyShirts)] =
      [e₁, e₂, e₃] ∧
    ¬ e₁.SaysReady ∧ e₂.SaysNotConfigured ∧
    e₃.Sends 500 (.json (.object [("message", .text "Internal server error")])) := by
  have hEmpty : (Settings.fromEnvironment []).toOption.map
      (fun s => (s.indexConfigured, s.environment)) =
        some (false, Text.ofString "development") := by
    decide +kernel
  obtain ⟨s, hSettings, hBoth⟩ := Settings.exists_of_toOption hEmpty
  obtain ⟨hNo, hEnvironment⟩ := Prod.mk.inj hBoth
  have hNotConfigured : ¬ s.indexConfigured = true := ne_true_of_eq_false hNo
  have hShown (a : Arrival) : ¬ HidesState s a := by
    rintro ⟨-, -, hNotUnicode⟩
    rw [hEnvironment] at hNotUnicode
    exact hNotUnicode (Sending.isUnicode_ofString "development")
  obtain ⟨payload, hPayload, hAccepted⟩ :=
    exists_bringsJson anyShirts Except.isOk (by decide +kernel)
  have hBrings : (shopRequest anyShirts).BringsSelection s := by
    refine ⟨Request.asks_of_asksProducts (asksProducts_shopRequest _) s, payload, ?_⟩
    cases hParse : Selection.parse payload with
    | ok sel => exact ⟨sel, Payload.read_of_bringsJson hPayload, rfl⟩
    | error e =>
      rw [hParse] at hAccepted
      cases hAccepted
  have hRun := fits_iff hSettings
    [askedOnce readyRequest, askedOnce stateRequest, askedOnce (shopRequest anyShirts)]
  obtain ⟨e₁, e₂, e₃, hExchanges⟩ : ∃ e₁ e₂ e₃, (start s).1.run
      [askedOnce readyRequest, askedOnce stateRequest, askedOnce (shopRequest anyShirts)] =
        [e₁, e₂, e₃] := ⟨_, _, _, run_start s _⟩
  rw [hExchanges] at hRun
  obtain _ | ⟨h₁, _ | ⟨h₂, _ | ⟨h₃, -⟩⟩⟩ := hRun
  refine ⟨s, e₁, e₂, e₃, hSettings, hExchanges, ?_, ?_, ?_⟩
  · rw [(h₁.2 (hShown _)).readiness (asks_readyRequest s)]
    exact hNotConfigured
  · exact ((h₂.2 (hShown _)).state (asks_stateRequest s)).2 hNotConfigured
  · exact (h₃.2 (hShown _)).refusal hBrings hNotConfigured

end App

end Storefront.Api
