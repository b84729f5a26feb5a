import Mathlib
import Storefront.Proofs.Api.Sharing
import Storefront.Proofs.Api.Targets

/-!
# Requests for endpoints

No endpoint accepts the method of a question that a browser asks beforehand, so what is done for a
request that leads to an endpoint is what the endpoint does. Its response is sent with its status,
and with its body unless only the head is wanted.

* `Route.served`: the paths that lead to an endpoint in every environment.
* `Request.Asks`, `Request.asks_of_mem_served`: the requests that lead to an endpoint.
* `Request.method_of_asks`: the method of a request, where the endpoint accepts only one.
* `App.answerOf_of_asks`: what is done for a request.
* `App.asks_or_responds`: requests that lead to the index, or else to a response at once.
* `App.calls_of_asks`, `App.sends_of_asks`, `App.fails_of_asks`: what comes of it in a run.
-/

namespace Storefront.Api

/-- What callers see of the response, besides its header fields. -/
def Exchange.Sends (e : Exchange) (status : Nat) (body : Body) : Prop :=
  e.response.status = status ∧ e.response.body = body

/-! ## Paths -/

namespace Route

/-- The paths that lead to an endpoint in every environment. -/
def served : List (String × Endpoint) :=
  [("/health", .health), ("/health/detailed", .detailedHealth), ("/ready", .ready), ("/live", .live),
   ("/api/products", .products)]

theorem lookup_of_mem_served (s : Settings) {path : String} {e : Endpoint} (h : (path, e) ∈ served) :
    lookup s path = some e := by
  have hAll : ∀ r ∈ served, lookup s r.1 = some r.2 := by
    unfold lookup table
    cases s.isDevelopment <;> decide +kernel
  exact hAll (path, e) h

theorem isPlainPath_of_mem_served {path : String} {e : Endpoint} (h : (path, e) ∈ served) :
    Target.IsPlainPath path := by
  have hAll : ∀ r ∈ served, Target.IsPlainPath r.1 := by decide +kernel
  exact hAll (path, e) h

theorem path_of_mem_served {path : String} {e : Endpoint} (h : (path, e) ∈ served) :
    (Target.parse path).path = path :=
  Target.path_parse_self (isPlainPath_of_mem_served h)

end Route

/-! ## Methods -/

namespace Request

/-- The request leads to the endpoint. -/
def Asks (s : Settings) (e : Endpoint) (r : Request) : Prop :=
  Route.find s r.method (Target.parse r.target) = .endpoint e

variable {s : Settings} {r : Request} {e : Endpoint}

/-- A request for a path of an endpoint, by a method that it accepts, leads to the endpoint. -/
theorem asks_of_mem_served {path : String} (hServed : (path, e) ∈ Route.served)
    (hPath : (Target.parse r.target).path = path) (hMethod : ∃ m ∈ e.methods, r.method = Text.ofString m) :
    r.Asks s e := by
  obtain ⟨m, hm, hSame⟩ := hMethod
  have hAccepts : (e.methods.any fun m => r.method == Text.ofString m) = true :=
    List.any_eq_true.2 ⟨m, hm, beq_iff_eq.2 hSame⟩
  rw [Asks, Route.find, hPath, Route.lookup_of_mem_served s hServed]
  exact if_pos hAccepts

theorem Asks.unique {e' : Endpoint} (h : r.Asks s e) (h' : r.Asks s e') : e = e' :=
  Route.endpoint.inj (h.symm.trans h')

theorem exists_method_of_asks (h : r.Asks s e) : ∃ m ∈ e.methods, r.method = Text.ofString m := by
  rw [Asks, Route.find] at h
  split at h
  · split at h
    · rename_i hMethod
      cases h
      obtain ⟨m, hm, hSame⟩ := List.any_eq_true.1 hMethod
      exact ⟨m, hm, eq_of_beq hSame⟩
    · cases h
  · split at h
    · cases h
    · cases h

theorem method_of_asks {m : String} (h : r.Asks s e) (hOnly : e.methods = [m]) : r.method = m := by
  obtain ⟨m', hm, hMethod⟩ := exists_method_of_asks h
  rw [hOnly] at hm
  rw [hMethod, List.mem_singleton.1 hm]

theorem method_ne_of_asks {m : String} (h : r.Asks s e) (hOther : m ∉ e.methods) :
    r.method ≠ m := by
  obtain ⟨m', hm, hMethod⟩ := exists_method_of_asks h
  rw [hMethod, ne_eq, Text.ofString_inj]
  rintro rfl
  exact hOther hm

theorem method_ne_options_of_asks (h : r.Asks s e) : r.method ≠ "OPTIONS" := by
  refine method_ne_of_asks h ?_
  cases e <;> decide

end Request

/-! ## Answers -/

namespace App

variable {s : Settings} {a : Arrival} {e : Endpoint}

theorem answerOf_of_asks {r : Request} (h : r.Asks s e) (replies : Replies) :
    answerOf s r replies =
      { serveOf s r replies e with result := (serveOf s r replies e).result.map (dress s r) } := by
  have hRoute : routeOf s r replies = serveOf s r replies e := by
    rw [routeOf, h]
  rw [answerOf, Cors.preflight?_of_ne _ (Request.method_ne_options_of_asks h), hRoute]

/-- A request leads to the state of the service or to a search; any other is responded to at
once. -/
theorem asks_or_responds (s : Settings) (r : Request) (replies : Replies) :
    r.Asks s .detailedHealth ∨ r.Asks s .products ∨
      ∃ response, answerOf s r replies = Handler.respond response := by
  cases hRoute : Route.find s r.method (Target.parse r.target) with
  | endpoint e =>
    cases e with
    | detailedHealth => exact .inl hRoute
    | products => exact .inr (.inl hRoute)
    | description | page | health | ready | live =>
      exact .inr (.inr ⟨_, answerOf_of_asks hRoute replies⟩)
  | refused _ | moved _ | nowhere =>
    refine .inr (.inr ?_)
    rw [answerOf]
    cases Cors.preflight? s.corsOrigins r with
    | some response => exact ⟨response, rfl⟩
    | none =>
      dsimp only
      rw [routeOf, hRoute, route, hRoute]
      exact ⟨_, rfl⟩

theorem calls_of_asks (h : a.request.Asks s e) :
    (exchange s a).calls = (serveOf s a.request a.replies e).calls := by
  rw [calls_exchange, answerOf_of_asks h]

/-- The response of the endpoint is sent with its status and its body. -/
theorem sends_of_asks (h : a.request.Asks s e) (hNoHead : "HEAD" ∉ e.methods)
    {response : Response} (hResult : (serveOf s a.request a.replies e).result = .ok response) :
    (exchange s a).Sends response.status response.body := by
  have hSent : (exchange s a).response =
      finalResponse (idOf a) (.ok (dress s a.request response)) := by
    rw [response_exchange, answerOf_of_asks h, hResult]
    rfl
  rw [Exchange.Sends, hSent, dress, if_neg (Request.method_ne_of_asks h hNoHead)]
  exact ⟨rfl, rfl⟩

/-- Where the endpoint has no response the same one is sent for all reasons. -/
theorem fails_of_asks (h : a.request.Asks s e) {crash : Crash}
    (hResult : (serveOf s a.request a.replies e).result = .error crash) :
    (exchange s a).response = failureResponse := by
  rw [response_exchange, answerOf_of_asks h, hResult]
  rfl

end App

end Storefront.Api
