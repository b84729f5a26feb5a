import Mathlib
import Storefront.Api.App
import Storefront.Proofs.Value.Reading

/-!
# Requests that share nothing visible

Requests share the client and the service, and both are what the settings describe, whichever
request they were made for. So a request is answered as if it were the first one.

* `Shared.Agrees`: what is kept is what the settings describe.
* `Session.step_of_holds`: a search by a service that holds the shared client, or none yet.
* `IsSettled`: what is done does not depend on what is shared, and keeps it in agreement.
* `App.isSettled_answer`: this holds of each request.
* `App.handle_of_isReady`: a step of the application, which leaves it ready.
* `App.run_start`: a run of the application, by induction over its steps.
* `App.isReady_after`: the application behind a run.
-/

namespace Storefront

open Index (BackendError Connection Reply)

/-! ## What is kept -/

namespace Session

variable {shared : Except BackendError Connection} {session : Session}

/-- A client that the session holds is the shared one. -/
def Holds (shared : Except BackendError Connection) (session : Session) : Prop :=
  ∀ c, session.client = some c → shared = .ok c

/-- A step is a search with the shared client, if there is one. -/
theorem step_of_holds (h : session.Holds shared) (s : SearchStep) :
    (session.step shared s).1 =
        session.service.search s.payload (shared.map fun _ => s.index.next.1) ∧
      (session.step shared s).2.Holds shared := by
  rw [step, SearchService.search]
  cases Selection.parse s.payload with
  | error e => exact ⟨rfl, h⟩
  | ok selection =>
    obtain ⟨service, client⟩ := session
    cases client with
    | some c =>
      have hShared : shared = .ok c := h c rfl
      subst hShared
      exact ⟨rfl, h⟩
    | none =>
      cases shared with
      | ok c => exact ⟨rfl, fun _ hc => congrArg Except.ok (Option.some.inj hc)⟩
      | error e => exact ⟨rfl, h⟩

end Session

namespace Api

variable {s : Settings} {shared : Shared}

namespace Shared

/-- What is kept is what the settings describe. -/
structure Agrees (s : Settings) (shared : Shared) : Prop where
  client : ∀ c, shared.client = some c → Connection.make "" "" s = .ok c
  service : ∀ service, shared.service = some service → SearchService.ofSettings s = .ok service

theorem agrees_initial : initial.Agrees s := ⟨by rintro _ ⟨⟩, by rintro _ ⟨⟩⟩

theorem obtain_of_kept {ε α : Type} {kept : Option α} {made : Except ε α}
    (h : ∀ a, kept = some a → made = .ok a) :
    (obtain kept made).1 = made ∧ ∀ a, (obtain kept made).2 = some a → made = .ok a := by
  cases kept with
  | some a => exact ⟨(h a rfl).symm, h⟩
  | none =>
    refine ⟨rfl, fun a ha => ?_⟩
    cases made with
    | error e => cases ha
    | ok b => exact congrArg Except.ok (Option.some.inj ha)

theorem getClient_of_agrees (h : shared.Agrees s) :
    (shared.getClient s).1 = Connection.make "" "" s ∧ (shared.getClient s).2.Agrees s := by
  obtain ⟨hClient, hKept⟩ := obtain_of_kept h.client
  exact ⟨hClient, hKept, h.service⟩

theorem getService_of_agrees (h : shared.Agrees s) :
    (shared.getService s).1 = SearchService.ofSettings s ∧ (shared.getService s).2.Agrees s := by
  obtain ⟨hService, hKept⟩ := obtain_of_kept h.service
  exact ⟨hService, h.client, hKept⟩

theorem search_of_agrees (h : shared.Agrees s) (service : SearchService) (payload : Value)
    (reply : Reply) :
    (shared.search s service payload reply).1 =
        service.search payload ((Connection.make "" "" s).map fun _ => reply) ∧
      (shared.search s service payload reply).2.Agrees s := by
  have hHolds : Session.Holds (Connection.make "" "" s) ⟨service, shared.client⟩ := h.client
  obtain ⟨hSearch, hNext⟩ := Session.step_of_holds hHolds ⟨payload, .steady reply⟩
  exact ⟨hSearch, hNext, h.service⟩

end Shared

/-! ## What is done for a request -/

/-- What is done is the same whatever is kept, and keeps the agreement. -/
def IsSettled (s : Settings) (act : Shared → Handled × Shared) (handled : Handled) : Prop :=
  ∀ shared, shared.Agrees s → (act shared).1 = handled ∧ (act shared).2.Agrees s

namespace IsSettled

variable {act : Shared → Handled × Shared} {handled : Handled}

/-- What keeps nothing is settled. -/
theorem pure (handled : Handled) : IsSettled s (handled, ·) handled := fun _ h => ⟨rfl, h⟩

theorem map (h : IsSettled s act handled) (f : Handled → Handled) :
    IsSettled s (fun shared => (f (act shared).1, (act shared).2)) (f handled) := by
  intro shared hAgrees
  obtain ⟨hSame, hNext⟩ := h shared hAgrees
  exact ⟨congrArg f hSame, hNext⟩

theorem initial (h : IsSettled s act handled) : (act .initial).1 = handled :=
  (h .initial Shared.agrees_initial).1

end IsSettled

namespace Handler

/-- The state of the service as it is reported to the first request. -/
def stateOf (s : Settings) (reply : Reply) : Handled :=
  if s.indexConfigured then askIndex s (Connection.make "" "" s) reply
  else ⟨[], [], report s ⟨"not_configured", .null, none⟩⟩

theorem isSettled_detailedHealth (s : Settings) (reply : Reply) :
    IsSettled s (detailedHealth s reply) (stateOf s reply) := by
  intro shared h
  rw [detailedHealth, stateOf]
  by_cases hConfigured : s.indexConfigured = true
  · obtain ⟨hClient, hAgrees⟩ := Shared.getClient_of_agrees h
    rw [if_pos hConfigured, if_pos hConfigured, ← hClient]
    exact ⟨rfl, hAgrees⟩
  · rw [if_neg hConfigured, if_neg hConfigured]
    exact ⟨rfl, h⟩

/-- What a search by a payload is for the first request. -/
def searchOf (s : Settings) (payload : Value) (reply : Reply) : Handled :=
  match SearchService.ofSettings s with
  | .error e => ⟨[], [], .error ⟨e.label, e.message⟩⟩
  | .ok service =>
    conclude (service.search payload ((Connection.make "" "" s).map fun _ => reply))

theorem isSettled_search (s : Settings) (payload : Value) (reply : Reply) :
    IsSettled s (search s payload reply) (searchOf s payload reply) := by
  intro shared h
  obtain ⟨hService, hAgrees⟩ := Shared.getService_of_agrees h
  rw [search, searchOf, ← hService]
  generalize shared.getService s = got at hAgrees ⊢
  obtain ⟨made, next⟩ := got
  cases made with
  | error e => exact ⟨rfl, hAgrees⟩
  | ok service =>
    obtain ⟨hSearch, hNext⟩ := Shared.search_of_agrees hAgrees service payload reply
    exact ⟨congrArg conclude hSearch, hNext⟩

/-- What is done for a search in a request, if it is the first one. -/
def productsOf (s : Settings) (r : Request) (reply : Reply) : Handled :=
  match Payload.read r with
  | .ok payload => searchOf s payload reply
  | .error refusal => respond refusal.response

theorem isSettled_products (s : Settings) (r : Request) (reply : Reply) :
    IsSettled s (products s r reply) (productsOf s r reply) := by
  intro shared h
  rw [products, productsOf]
  cases Payload.read r with
  | ok payload => exact isSettled_search s payload reply shared h
  | error refusal => exact ⟨rfl, h⟩

end Handler

theorem Cors.preflight?_of_ne (origins : List Text) {r : Request} (h : r.method ≠ "OPTIONS") :
    Cors.preflight? origins r = none := by
  rw [Cors.preflight?, Cors.question?]
  split
  · rw [if_neg h]
    rfl
  · rfl

namespace App

/-- What an endpoint does. -/
def serveOf (s : Settings) (r : Request) (replies : Replies) : Endpoint → Handled
  | .detailedHealth => Handler.stateOf s replies.info
  | .products => Handler.productsOf s r replies.query
  | e => (serve s r replies .initial e).1

theorem isSettled_serve (s : Settings) (r : Request) (replies : Replies) (e : Endpoint) :
    IsSettled s (serve s r replies · e) (serveOf s r replies e) := by
  cases e with
  | detailedHealth => exact Handler.isSettled_detailedHealth s replies.info
  | products => exact Handler.isSettled_products s r replies.query
  | description | page | health | ready | live => exact .pure _

/-- What is done for a request, if it is the first one. -/
def routeOf (s : Settings) (r : Request) (replies : Replies) : Handled :=
  match Route.find s r.method (Target.parse r.target) with
  | .endpoint e => serveOf s r replies e
  | _ => (route s r replies .initial).1

theorem isSettled_route (s : Settings) (r : Request) (replies : Replies) :
    IsSettled s (route s r replies) (routeOf s r replies) := by
  intro shared h
  rw [routeOf, route, route]
  cases Route.find s r.method (Target.parse r.target) with
  | endpoint e => exact isSettled_serve s r replies e shared h
  | refused _ | moved _ | nowhere => exact ⟨rfl, h⟩

/-- What is done for a request, questions of browsers included, if it is the first one. -/
def answerOf (s : Settings) (r : Request) (replies : Replies) : Handled :=
  match Cors.preflight? s.corsOrigins r with
  | some response => Handler.respond response
  | none =>
    { routeOf s r replies with result := (routeOf s r replies).result.map (dress s r) }

theorem isSettled_answer (s : Settings) (r : Request) (replies : Replies) :
    IsSettled s (answer s r replies) (answerOf s r replies) := by
  intro shared h
  rw [answerOf, answer]
  cases Cors.preflight? s.corsOrigins r with
  | some response => exact ⟨rfl, h⟩
  | none =>
    exact (isSettled_route s r replies).map
      (fun handled => { handled with result := handled.result.map (dress s r) }) shared h

/-! ## Runs -/

/-- The application has its first journal, and what it shares is what the settings describe. -/
structure IsReady (s : Settings) (app : App) : Prop where
  settings : app.settings = s
  journal : app.journal = (start s).1.journal
  shared : app.shared.Agrees s

theorem isReady_start : (start s).1.IsReady s := ⟨rfl, rfl, Shared.agrees_initial⟩

/-- What comes of a request that is the first one. -/
def exchange (s : Settings) (a : Arrival) : Exchange :=
  ((start s).1.handle a.request a.fresh a.replies).2

theorem context_configure (j : Log.Journal) (c : Log.Configuration) :
    (j.configure c).1.context = j.context := by
  rw [Log.Journal.configure]
  split
  · rfl
  · dsimp only
    split <;> rfl

theorem context_start : (start s).1.journal.context = [] := context_configure _ _

theorem clear_bind {j : Log.Journal} (h : j.context = []) (fields : Fields) :
    (j.bind fields).clear = j := by
  rw [Log.Journal.clear, Log.Journal.bind, ← h]

/-- A request leaves the application ready, and nothing comes of it but what would come of it as the
first one. -/
theorem handle_of_isReady {app : App} (h : app.IsReady s) (a : Arrival) :
    (app.handle a.request a.fresh a.replies).1.IsReady s ∧
      (app.handle a.request a.fresh a.replies).2 = exchange s a := by
  obtain ⟨settings, journal, shared⟩ := app
  obtain rfl : settings = s := h.settings
  obtain rfl : journal = (start settings).1.journal := h.journal
  obtain ⟨hAnswer, hAgrees⟩ := isSettled_answer settings a.request a.replies shared h.shared
  have hFirst := (isSettled_answer settings a.request a.replies).initial
  constructor
  · exact ⟨rfl, clear_bind context_start _, hAgrees⟩
  · have hSettings : (start settings).1.settings = settings := rfl
    have hShared : (start settings).1.shared = .initial := rfl
    rw [exchange, handle, handle, hSettings, hShared]
    dsimp only
    rw [hAnswer, hFirst]

theorem run_of_isReady {app : App} (h : app.IsReady s) (arrivals : List Arrival) :
    app.run arrivals = arrivals.map (exchange s) := by
  -- The application is generalised because each request hands another one on.
  induction arrivals generalizing app with
  | nil => rfl
  | cons a arrivals ih =>
    obtain ⟨hNext, hExchange⟩ := handle_of_isReady h a
    rw [run, List.map_cons, ← hExchange, ← ih hNext]

/-- Requests leave the application ready. -/
theorem isReady_after {app : App} (h : app.IsReady s) (arrivals : List Arrival) :
    (app.after arrivals).IsReady s := by
  induction arrivals generalizing app with
  | nil => exact h
  | cons a arrivals ih => exact ih (handle_of_isReady h a).1

/-- What comes of each request of a run is what would come of it as the first one. -/
theorem run_start (s : Settings) (arrivals : List Arrival) :
    (start s).1.run arrivals = arrivals.map (exchange s) :=
  run_of_isReady isReady_start arrivals

/-- The id of a request: its own, or a fresh one. -/
def idOf (a : Arrival) : Text := (a.request.header? "x-request-id").getD a.fresh

theorem response_exchange (s : Settings) (a : Arrival) :
    (exchange s a).response = finalResponse (idOf a) (answerOf s a.request a.replies).result := by
  rw [← (isSettled_answer s a.request a.replies).initial]
  rfl

theorem calls_exchange (s : Settings) (a : Arrival) :
    (exchange s a).calls = (answerOf s a.request a.replies).calls := by
  rw [← (isSettled_answer s a.request a.replies).initial]
  rfl

end App

end Api

end Storefront
