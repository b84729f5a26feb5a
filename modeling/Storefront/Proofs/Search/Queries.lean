import Mathlib
import Storefront.Proofs.Filter.History
import Storefront.Proofs.Selection.Rejecting
import Storefront.Search.Session

/-!
# The queries of a service

What a service in use sends to the index: one query for each accepted payload, with a filter, and
nothing for the others. A search does not depend on the searches before it.

* `Selection.render_filter_ne_nil`: the filter of a selection is never empty.
* `SearchService.calls_search`: the only call of a search, whatever the index answers.
* `SearchService.search_of_no_client`: a search that nothing can be sent for.
* `Session.step_eq_search`: a step of a session is a search, and leaves the service as it was.
* `Session.run_eq_map`: a run of a session, by induction over its steps.
* `Session.queries_of_run`: what the steps of a run send.
-/

namespace Storefront

open Index (BackendError Connection Reply)

/-! ## One search -/

theorem Selection.render_filter_ne_nil (s : Selection) : s.filter.render ≠ [] := by
  rw [ne_eq, Filter.Builder.render_eq_nil_iff]
  exact List.cons_ne_nil _ _

namespace SearchService

/-- The query of a selection as it is sent. -/
theorem call_query (service : SearchService) (s : Selection) :
    (service.query s).call =
      ⟨.list [.int 0, .int 0, service.order.probePrice s.sort], .int service.topK, .bool true,
        .bool true, some (.text s.filter.render)⟩ := by
  have hFilter : (service.query s).filter = some s.filter.render := rfl
  have hPresent : (Value.text s.filter.render).truthy = true := by
    rw [Value.truthy, Bool.not_eq_true', List.isEmpty_eq_false_iff]
    exact s.render_filter_ne_nil
  rw [ProductQuery.call, hFilter, Option.map_some, Option.getD_some, Index.Client.prepare,
    if_pos hPresent]
  rfl

theorem calls_send (service : SearchService) (s : Selection) (reply : Reply) :
    (service.send s (.ok reply)).calls = [.query (service.query s).call] := by
  rw [send]
  split <;> rfl

/-- The only call of a search with an accepted payload, whatever the index answers. -/
theorem calls_search (service : SearchService) {payload : Value} {s : Selection}
    (h : Selection.parse payload = .ok s) (reply : Reply) :
    (service.search payload (.ok reply)).calls = [.query (service.query s).call] := by
  rw [search, h]
  exact service.calls_send s reply

/-- Without a client nothing is sent, and the failure to make one is the outcome. -/
theorem search_of_no_client (service : SearchService) {payload : Value} {s : Selection}
    (h : Selection.parse payload = .ok s) (e : BackendError) :
    service.search payload (.error e) =
      ⟨[], [Search.queryRecord (service.query s) s.sort, Search.failureRecord e],
        .error (.index (.backend e))⟩ := by
  rw [search, h]
  rfl

end SearchService

/-! ## Steps and runs -/

namespace Session

variable {shared : Except BackendError Connection} {session : Session}

/-- The session holds a client, or there is a shared one. -/
def HasClient (shared : Except BackendError Connection) (session : Session) : Prop :=
  session.client.isSome = true ∨ ∃ c, shared = .ok c

theorem exists_connect (h : session.HasClient shared) :
    ∃ c, session.connect shared = (.ok c, ⟨session.service, some c⟩) := by
  obtain ⟨service, client⟩ := session
  cases client with
  | some c => exact ⟨c, rfl⟩
  | none =>
    obtain hSome | ⟨c, rfl⟩ := h
    · cases hSome
    · exact ⟨c, rfl⟩

/-- A step is a search by the service, and the next step has the same service and a client. -/
theorem step_eq_search (h : session.HasClient shared) (s : SearchStep) :
    (session.step shared s).1 = session.service.search s.payload (.ok s.index.next.1) ∧
      (session.step shared s).2.service = session.service ∧
      (session.step shared s).2.HasClient shared := by
  rw [step, SearchService.search]
  cases Selection.parse s.payload with
  | error e => exact ⟨rfl, rfl, h⟩
  | ok selection =>
    obtain ⟨c, hConnect⟩ := exists_connect h
    dsimp only
    rw [hConnect]
    exact ⟨rfl, rfl, .inl rfl⟩

/-- Each step of a run is a search of its own. -/
theorem run_eq_map (h : session.HasClient shared) (steps : List SearchStep) :
    session.run shared steps =
      steps.map fun s => session.service.search s.payload (.ok s.index.next.1) := by
  -- The session is generalised because a step may leave it with a client that it had not before.
  induction steps generalizing session with
  | nil => rfl
  | cons s steps ih =>
    obtain ⟨hSearch, hService, hClient⟩ := step_eq_search h s
    rw [run, List.map_cons, ← hService, ← ih hClient, hService, ← hSearch]

/-! ## New sessions -/

/-- The price in the probe of a sort mode: from the order that the service is given, or else from
the settings. -/
def probePrice (order : Option ResultOrder) (s : Settings) : SortMode → Value
  | .unordered => (order.map ResultOrder.averagePrice).getD (.float s.averagePrice)
  | .priceAscending => .int 0
  | .priceDescending => (order.map ResultOrder.maxPrice).getD (.float s.maxPrice)

theorem service_of_create {client : Option Connection} {order : Option ResultOrder} {s : Settings}
    (h : create client order s = .ok session) :
    session.service.topK = s.topK ∧
      session.service.order.probePrice = probePrice order s := by
  cases order with
  | some o =>
    injection h with h
    subst h
    refine ⟨rfl, funext fun sort => ?_⟩
    cases sort <;> rfl
  | none =>
    rw [create, SearchService.ofSettings] at h
    cases hStrategy : OrderingStrategy.ofValue (.text s.orderingStrategy) with
    | error e =>
      rw [hStrategy] at h
      cases h
    | ok strategy =>
      rw [hStrategy] at h
      injection h with h
      subst h
      refine ⟨rfl, funext fun sort => ?_⟩
      cases sort <;> rfl

/-- What a search sends to the index: nothing for a payload that is rejected, and for one that is
accepted one query with the filter of its selection. -/
def SendsQuery (order : Option ResultOrder) (s : Settings) (payload : Value) (search : Search) :
    Prop :=
  match Selection.parse payload with
  | .error e => search.calls = [] ∧ search.result = .error (.selection e)
  | .ok selection => ∃ filter, selection.buildFilter = .ok filter ∧ filter.render ≠ [] ∧
      search.calls = [.query ⟨.list [.int 0, .int 0, probePrice order s selection.sort],
        .int s.topK, .bool true, .bool true, some (.text filter.render)⟩]

theorem sendsQuery_search {client : Option Connection} {order : Option ResultOrder} {s : Settings}
    (h : create client order s = .ok session) (payload : Value) (reply : Reply) :
    SendsQuery order s payload (session.service.search payload (.ok reply)) := by
  obtain ⟨hTopK, hPrice⟩ := service_of_create h
  rw [SendsQuery]
  cases hParse : Selection.parse payload with
  | error e =>
    rw [Selection.search_of_parse_error _ hParse]
    exact ⟨rfl, rfl⟩
  | ok selection =>
    refine ⟨selection.filter, Selection.filter_eq_build selection,
      selection.render_filter_ne_nil, ?_⟩
    rw [session.service.calls_search hParse, SearchService.call_query, hTopK, hPrice]

/-- Each step of a run sends what its payload asks for, whatever the index answers, and goes as if it
were the only step of a new session. -/
theorem queries_of_run {client : Option Connection} {order : Option ResultOrder} {s : Settings}
    (hCreate : create client order s = .ok session) (hClient : session.HasClient shared)
    (steps : List SearchStep) :
    List.Forall₂ (fun step search => SendsQuery order s step.payload search ∧
        session.run shared [step] = [search])
      steps (session.run shared steps) := by
  rw [run_eq_map hClient, List.forall₂_map_right_iff, List.forall₂_same]
  exact fun step _ => ⟨sendsQuery_search hCreate _ _, run_eq_map hClient [step]⟩

/-- The settings of a small shop. -/
def shopSettings : Settings where
  environment := "production"
  debug := false
  host := "0.0.0.0"
  port := 8080
  corsOrigins := []
  indexUrl := "https://index"
  indexToken := "token"
  topK := 12
  timeoutSeconds := Settings.whole 10
  averagePrice := Settings.whole 25
  maxPrice := Settings.whole 50
  orderingStrategy := "metadata"

/-- A payload that is rejected, an index that is too slow, and one that answers with nonsense. -/
def unluckySteps : List SearchStep :=
  [⟨.null, .steady (.value .null)⟩,
    ⟨.object [("color", .list []), ("size", .list []), ("price", .list [.int 0, .int 9]),
      ("sort", .text "none")], .steady (.fault ⟨.timeout .read, "slow"⟩)⟩,
    ⟨.object [("color", .list []), ("size", .list []), ("price", .list [.int 0, .int 9]),
      ("sort", .text "none")], .sequence [.value (.bool true)]⟩]

theorem queries_of_unluckySteps :
    ∃ session, create none none shopSettings = .ok session ∧
      List.Forall₂ (fun step search => SendsQuery none shopSettings step.payload search ∧
          session.run (.ok ⟨"https://index", "token", Settings.whole 10⟩) [step] = [search])
        unluckySteps
        (session.run (.ok ⟨"https://index", "token", Settings.whole 10⟩) unluckySteps) := by
  obtain ⟨session, hCreate⟩ : ∃ session, create none none shopSettings = .ok session := ⟨_, rfl⟩
  exact ⟨session, hCreate, queries_of_run hCreate (.inr ⟨_, rfl⟩) unluckySteps⟩

end Session

end Storefront
