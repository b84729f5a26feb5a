import Mathlib
import Storefront.Proofs.Api.Sharing
import Storefront.Proofs.Registry.LifeCycle

/-!
# The registry behind the application

An application hands on the client and the service that its requests share, and a service in use the
client that it holds. Both are what a registry keeps in its cells, without the serial numbers. So a
request of the application is a few steps of the registry, and what is known about all sequences of steps
holds of what an application shares.

* `Shared.ofRegistry`: what a registry shares with requests.
* `Shared.getClient_ofRegistry`, `Shared.getService_ofRegistry`, `Session.connect_ofRegistry`: asking for
  the client, for the service, and for the client of the service.
* `Mirrors`: what is done for a request is done by steps of the registry.
* `App.mirrors_answer`: this holds of each request.
* `App.shared_after`: a run of the application, by induction over its requests.
-/

namespace Storefront

open Index (Connection Reply)

/-! ## What a registry shares -/

namespace Api

open Registry (Cell)

variable {s : Settings} {r : Registry}

namespace Shared

/-- What a registry shares with requests. -/
def ofRegistry (r : Registry) : Shared := ⟨r.client.map Made.value, r.service.map Made.value⟩

/-- A request for an object is answered with the value in its cell, or else with what is made. -/
theorem obtain_of_cell {ε α : Type} (cell : Cell α) (maker : Settings → Except ε α)
    (wrap : ε → RegistryError) (hForce : r.inForce = .ok s)
    (hRead : cell.read (Registry.getSettings.after r) = cell.read r) :
    ((Registry.getFromSettings cell fun s => (maker s).mapError wrap).answer r).map Made.value =
        (obtain ((cell.read r).map Made.value) (maker s)).1.mapError wrap ∧
      (cell.read ((Registry.getFromSettings cell fun s => (maker s).mapError wrap).after r)).map
          Made.value =
        (obtain ((cell.read r).map Made.value) (maker s)).2 := by
  obtain ⟨m, hCell, hAnswer, hAfter⟩ | ⟨e, hCell, hMade, hAnswer, hAfter⟩ |
      ⟨a, hCell, hMade, hAnswer, hAfter⟩ :=
    Registry.getFromSettings_cases cell (fun s => (maker s).mapError wrap) r
  · rw [hAnswer, hAfter, hCell]
    exact ⟨rfl, rfl⟩
  · rw [hForce] at hMade
    rw [hAnswer, hAfter, hRead, hCell]
    cases hMaker : maker s with
    | error e' =>
      have hSame : Except.error (wrap e') = Except.error (α := α) e := by
        rw [← hMade]
        exact (congrArg (Except.mapError wrap) hMaker).symm
      cases hSame
      exact ⟨rfl, rfl⟩
    | ok a =>
      have hOk : (maker s).mapError wrap = .ok a := mapError_eq_ok_iff.2 hMaker
      cases hOk.symm.trans hMade
  · rw [hForce] at hMade
    have hMaker : maker s = .ok a := mapError_eq_ok_iff.1 hMade
    rw [hAnswer, hAfter, cell.read_fill, hCell, hMaker]
    exact ⟨rfl, rfl⟩

theorem getClient_ofRegistry (hForce : r.inForce = .ok s) :
    (Registry.getClient.answer r).map Made.value =
        ((ofRegistry r).getClient s).1.mapError .backend ∧
      ofRegistry (Registry.getClient.after r) = ((ofRegistry r).getClient s).2 := by
  obtain ⟨hAnswer, hKept⟩ := obtain_of_cell .client (Connection.make "" "") .backend hForce
    (Registry.client_getSettings r)
  refine ⟨hAnswer, ?_⟩
  rw [getClient, ofRegistry, Registry.service_getClient]
  exact congrArg (Shared.mk · _) hKept

theorem getService_ofRegistry (hForce : r.inForce = .ok s) :
    (Registry.getService.answer r).map Made.value =
        ((ofRegistry r).getService s).1.mapError .strategy ∧
      ofRegistry (Registry.getService.after r) = ((ofRegistry r).getService s).2 := by
  obtain ⟨hAnswer, hKept⟩ := obtain_of_cell .service SearchService.ofSettings .strategy hForce
    (Registry.service_getSettings r)
  refine ⟨hAnswer, ?_⟩
  rw [getService, ofRegistry, Registry.client_getService]
  exact congrArg (Shared.mk _) hKept

theorem ofRegistry_getHeld (h : r.Agrees) (hForce : r.inForce = .ok s) :
    ofRegistry (Registry.getHeld.after r) = ((ofRegistry r).getClient s).2 := by
  obtain ⟨-, hKept⟩ := getClient_ofRegistry hForce
  obtain ⟨-, hAfter | ⟨m, -, hAfter⟩⟩ := Registry.getHeld_cases h
  · rw [hAfter, hKept]
  · rw [hAfter, ← hKept]
    rfl

/-- The client of a service that has asked for one is the shared client, or it is asked for now. -/
theorem connect_eq (shared : Shared) (service : SearchService) :
    Session.connect (Connection.make "" "" s) ⟨service, shared.client⟩ =
      ((shared.getClient s).1, ⟨service, (shared.getClient s).2.client⟩) := by
  obtain ⟨client, kept⟩ := shared
  cases client with
  | some c => rfl
  | none =>
    rw [getClient]
    cases Connection.make "" "" s with
    | ok c => rfl
    | error e => rfl

end Shared

end Api

/-! ## The client of the service -/

namespace Session

open Api (Shared)

variable {s : Settings} {r : Registry}

/-- A service in use, with the client that a registry holds for it. -/
def ofRegistry (r : Registry) (service : SearchService) : Session := ⟨service, r.held.map Made.value⟩

/-- The client of the service is the one that it holds, or else the shared client, which it holds from
then on. -/
theorem connect_ofRegistry (h : r.Agrees) (hForce : r.inForce = .ok s) (service : SearchService) :
    (Registry.getHeld.answer r).map Made.value =
        (connect ((Shared.ofRegistry r).getClient s).1 (ofRegistry r service)).1.mapError .backend ∧
      (connect ((Shared.ofRegistry r).getClient s).1 (ofRegistry r service)).2 =
        ofRegistry (Registry.getHeld.after r) service := by
  cases hHeld : r.held with
  | some m =>
    obtain ⟨hAnswer, hAfter⟩ := Registry.orElse_of_some hHeld (Registry.getClient >>= Registry.hold)
    have hHeldAfter : Registry.getHeld.after r = r := hAfter
    have hHeldAnswer : Registry.getHeld.answer r = .ok m := hAnswer
    have hKept : (Shared.ofRegistry r).getClient s = (.ok m.value, Shared.ofRegistry r) := by
      rw [Shared.getClient, Shared.ofRegistry, h.held m hHeld]
      rfl
    rw [hHeldAnswer, hHeldAfter, hKept, ofRegistry, hHeld]
    exact ⟨rfl, rfl⟩
  | none =>
    obtain ⟨hAnswer, hAfter⟩ := Registry.orElse_of_none hHeld (Registry.getClient >>= Registry.hold)
    obtain ⟨hClient, -⟩ := Shared.getClient_ofRegistry hForce
    have hSession : ofRegistry r service = ⟨service, none⟩ := by
      rw [ofRegistry, hHeld]
      rfl
    rw [hSession]
    cases hGot : Registry.getClient.answer r with
    | error e =>
      obtain ⟨hError, hLeft⟩ := Registry.Action.bind_of_error hGot Registry.hold
      have hHeldAnswer : Registry.getHeld.answer r = .error e := hAnswer.trans hError
      have hHeldAfter : Registry.getHeld.after r = Registry.getClient.after r := hAfter.trans hLeft
      rw [hHeldAnswer, hHeldAfter, ofRegistry, Registry.held_getClient, hHeld]
      rw [hGot] at hClient
      cases hMade : ((Shared.ofRegistry r).getClient s).1 with
      | ok c =>
        rw [hMade] at hClient
        cases hClient
      | error e' =>
        rw [hMade] at hClient
        exact ⟨hClient, rfl⟩
    | ok m =>
      obtain ⟨hOk, hLeft⟩ := Registry.Action.bind_of_ok hGot Registry.hold
      have hHeldAnswer : Registry.getHeld.answer r = .ok m := hAnswer.trans hOk
      have hHeldAfter : Registry.getHeld.after r = { Registry.getClient.after r with held := some m } :=
        hAfter.trans hLeft
      have hMade : ((Shared.ofRegistry r).getClient s).1 = .ok m.value := by
        rw [hGot] at hClient
        exact mapError_eq_ok_iff.1 hClient.symm
      rw [hHeldAnswer, hHeldAfter, hMade]
      exact ⟨rfl, rfl⟩

end Session

namespace Api

open Registry (Step)

variable {s : Settings} {r : Registry}

/-! ## Requests to the application -/

open Shared (ofRegistry)

/-- What is done for a request asks the registry for objects, and leaves what these steps leave. -/
structure Mirrors (s : Settings) (act : Shared → Handled × Shared) (steps : List Step) : Prop where
  requests : ∀ step ∈ steps, step.IsRequest
  after : ∀ r : Registry, r.Agrees → r.inForce = .ok s →
    (act (ofRegistry r)).2 = ofRegistry (r.afterAll steps)

theorem Mirrors.pure (handled : Handled) : Mirrors s (handled, ·) [] :=
  ⟨by rintro step ⟨⟩, fun _ _ _ => rfl⟩

theorem Mirrors.map {act : Shared → Handled × Shared} {steps : List Step} (h : Mirrors s act steps)
    (f : Handled → Handled) : Mirrors s (fun shared => (f (act shared).1, (act shared).2)) steps :=
  ⟨h.requests, h.after⟩

namespace Handler

/-- The steps for the state of the service. -/
def stateSteps (s : Settings) : List Step := if s.indexConfigured then [.client] else []

theorem mirrors_detailedHealth (reply : Reply) :
    Mirrors s (detailedHealth s reply) (stateSteps s) where
  requests := by
    rw [stateSteps]
    split <;> simp [Step.IsRequest]
  after r _ hForce := by
    rw [detailedHealth, stateSteps]
    split
    · exact (Shared.getClient_ofRegistry hForce).2.symm
    · rfl

/-- The steps for a search: the client of the service is asked for only with a payload that is
accepted. -/
def searchSteps (payload : Value) : List Step :=
  match Selection.parse payload with
  | .ok _ => [.serviceClient]
  | .error _ => [.service]

theorem snd_shared_search (shared : Shared) (service : SearchService) (payload : Value) (reply : Reply) :
    (shared.search s service payload reply).2 =
      match Selection.parse payload with
      | .ok _ => (shared.getClient s).2
      | .error _ => shared := by
  rw [Shared.search, Session.step]
  cases Selection.parse payload with
  | error e => rfl
  | ok sel =>
    dsimp only
    rw [Shared.connect_eq]
    rfl

theorem mirrors_search (payload : Value) (reply : Reply) :
    Mirrors s (search s payload reply) (searchSteps payload) where
  requests := by
    rw [searchSteps]
    split <;> simp [Step.IsRequest]
  after r h hForce := by
    obtain ⟨hService, hAfter⟩ := Shared.getService_ofRegistry hForce
    obtain ⟨hGrows, hNext⟩ := Registry.isSound_getService r h
    have hHeld := Shared.ofRegistry_getHeld hNext (hGrows.inForce.trans hForce)
    rw [search]
    generalize (ofRegistry r).getService s = got at hService hAfter ⊢
    obtain ⟨made, next⟩ := got
    obtain rfl : ofRegistry (Registry.getService.after r) = next := hAfter
    -- The service is the same in the registry, so both go on to the client or both stop.
    cases made with
    | error e =>
      have hSteps : r.afterAll (searchSteps payload) = Registry.getService.after r := by
        rw [searchSteps]
        split
        · obtain ⟨e', -, -, hLeft⟩ | ⟨m, hGot, -⟩ := Registry.getServiceClient_cases h
          · exact hLeft
          · rw [hGot] at hService
            cases hService
        · rfl
      rw [hSteps]
    | ok service =>
      have hSearch := snd_shared_search (s := s) (ofRegistry (Registry.getService.after r)) service
        payload reply
      dsimp only
      rw [hSearch, searchSteps]
      cases Selection.parse payload with
      | error e => rfl
      | ok sel =>
        obtain ⟨e', hGot, -⟩ | ⟨m, -, -, hLeft⟩ := Registry.getServiceClient_cases h
        · rw [hGot] at hService
          cases hService
        · rw [← hHeld, ← hLeft]
          rfl

/-- The steps for a search by the payload of a request. -/
def productsSteps (request : Request) : List Step :=
  match Payload.read request with
  | .ok payload => searchSteps payload
  | .error _ => []

theorem mirrors_products (request : Request) (reply : Reply) :
    Mirrors s (products s request reply) (productsSteps request) := by
  unfold products productsSteps
  cases Payload.read request with
  | ok payload => exact mirrors_search payload reply
  | error refusal => exact .pure _

end Handler

namespace App

/-- The steps for an endpoint. -/
def serveSteps (s : Settings) (request : Request) : Endpoint → List Step
  | .detailedHealth => Handler.stateSteps s
  | .products => Handler.productsSteps request
  | _ => []

theorem mirrors_serve (request : Request) (replies : Replies) (e : Endpoint) :
    Mirrors s (serve s request replies · e) (serveSteps s request e) := by
  cases e with
  | detailedHealth => exact Handler.mirrors_detailedHealth replies.info
  | products => exact Handler.mirrors_products request replies.query
  | description | page | health | ready | live => exact .pure _

/-- The steps for a request that is no question of a browser; one that leads to no endpoint takes none. -/
def routeSteps (s : Settings) (request : Request) : List Step :=
  match Route.find s request.method (Target.parse request.target) with
  | .endpoint e => serveSteps s request e
  | _ => []

theorem mirrors_route (request : Request) (replies : Replies) :
    Mirrors s (route s request replies) (routeSteps s request) where
  requests := by
    rw [routeSteps]
    split
    · exact (mirrors_serve request replies _).requests
    · rintro step ⟨⟩
  after r h hForce := by
    rw [route, routeSteps]
    cases Route.find s request.method (Target.parse request.target) with
    | endpoint e => exact (mirrors_serve request replies e).after r h hForce
    | refused _ | moved _ | nowhere => rfl

/-- The steps for a request; a question of a browser takes none. -/
def steps (s : Settings) (request : Request) : List Step :=
  match Cors.preflight? s.corsOrigins request with
  | some _ => []
  | none => routeSteps s request

theorem mirrors_answer (request : Request) (replies : Replies) :
    Mirrors s (answer s request replies) (steps s request) := by
  unfold answer steps
  cases Cors.preflight? s.corsOrigins request with
  | some response => exact .pure _
  | none =>
    exact (mirrors_route request replies).map
      fun handled => { handled with result := handled.result.map (dress s request) }

/-- A run of the application leaves what the steps for its requests leave of a registry. -/
theorem shared_after_of_agrees {app : App} (hSettings : app.settings = s)
    (hShared : app.shared = ofRegistry r) (h : r.Agrees) (hForce : r.inForce = .ok s)
    (arrivals : List Arrival) : (app.after arrivals).shared =
      ofRegistry (r.afterAll (arrivals.flatMap fun a => steps s a.request)) := by
  induction arrivals generalizing app r with
  | nil => exact hShared
  | cons a arrivals ih =>
    have hMirrors := mirrors_answer (s := s) a.request a.replies
    have hNext := Registry.agrees_afterAll h (steps s a.request)
    have hGrows := Registry.grows_afterAll h hMirrors.requests
    have hStep : (app.handle a.request a.fresh a.replies).1.shared =
        ofRegistry (r.afterAll (steps s a.request)) := by
      rw [← hMirrors.after r h hForce, ← hShared, ← hSettings]
      rfl
    have hSame : (app.handle a.request a.fresh a.replies).1.settings = s := hSettings
    rw [after, ih hSame hStep hNext (hGrows.inForce.trans hForce), List.flatMap_cons,
      Registry.afterAll, Registry.afterAll, Registry.afterAll, List.foldl_append]

/-- What an application shares behind a run is what a registry keeps behind the steps for the requests,
beginning with nothing but the environment. -/
theorem shared_after {environment : Settings.Environment}
    (h : Settings.fromEnvironment environment = .ok s) (arrivals : List Arrival) :
    ((start s).1.after arrivals).shared =
      ofRegistry ((Registry.initial environment).afterAll
        (arrivals.flatMap fun a => steps s a.request)) := by
  have hForce : (Registry.initial environment).inForce = .ok s := mapError_eq_ok_iff.2 h
  exact shared_after_of_agrees rfl rfl (Registry.agrees_initial environment) hForce arrivals

end App

end Api

end Storefront
