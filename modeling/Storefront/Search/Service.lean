import Storefront.Filter.Product
import Storefront.Index.Client
import Storefront.Log.Journal
import Storefront.ResultOrder

/-!
# The search service

One search reads a selection from a payload, builds a query from it, sends the query once, and
brings the matches into order. A payload that is rejected is never sent, a failure of the backend is
reported before it is passed on, and nothing is tried twice.

* `SearchService.query`: the query of a selection.
* `SearchService.search`: one search, with the calls that it sent and the records that it reported.
-/

namespace Storefront

open Index (BackendError Call ClientError Match Reply)

/-- What the index is asked for. There is no filter where nothing restricts the products. -/
structure ProductQuery where
  probe : List Value
  topK : Int
  filter : Option Text

/-- What is the same for all searches: how results are ordered, and how many are asked for. -/
structure SearchService where
  order : ResultOrder
  topK : Int

/-- Why a search has no results: the payload is no selection, the index has not given any, or a
match has a price that it cannot be sorted by. -/
inductive SearchError where
  | selection (e : SelectionError)
  | index (e : ClientError)
  | sorting (m : Misuse)

namespace SearchError

def label : SearchError → String
  | .selection e => e.label
  | .index e => e.label
  | .sorting m => m.label

def message : SearchError → Text
  | .selection e => e.message
  | .index e => e.message
  | .sorting m => m.message

end SearchError

/-- What a search did: the calls that it sent, the records that it reported, and its outcome. -/
structure Search where
  calls : List Call
  records : List Log.Record
  result : Except SearchError (List Match)

namespace SearchService

/-- The service that the settings describe. -/
def ofSettings (s : Settings) : Except StrategyError SearchService := do
  let strategy ← OrderingStrategy.ofValue (.text s.orderingStrategy)
  pure ⟨⟨strategy, .float s.averagePrice, .float s.maxPrice⟩, s.topK⟩

/-- The query of a selection. -/
def query (service : SearchService) (s : Selection) : ProductQuery where
  probe := service.order.probe s.sort
  topK := service.topK
  filter := if s.filter.isEmpty then none else some s.filter.render

end SearchService

/-- The query as it is sent: vectors and metadata are to be returned. -/
def ProductQuery.call (q : ProductQuery) : Index.Query :=
  Index.Client.prepare (.list q.probe) (.int q.topK) (.bool true) (.bool true)
    ((q.filter.map Value.text).getD .null)

namespace Search

/-- The logger of the service. -/
def logger : String := "search.product_search"

/-- The record of a query that is about to be sent. -/
def queryRecord (q : ProductQuery) (sort : SortMode) : Log.Record where
  logger := logger
  level := .debug
  event := "Product query"
  fields :=
    [("filter", (q.filter.map Value.text).getD .null), ("vector", .list q.probe),
     ("top_k", .int q.topK), ("sort", .text sort.name)]

/-- The record of a failure of the backend. -/
def failureRecord (e : BackendError) : Log.Record where
  logger := logger
  level := .error
  event := "Vector index query failed"
  fields :=
    [("error", .text e.message), ("error_type", .text e.label),
     ("cause", (e.cause?.map fun f => Value.text f.describe).getD .null)]

/-- The record of an error of the client; only failures of the backend are reported. -/
def failureRecords : ClientError → List Log.Record
  | .backend e => [failureRecord e]
  | .fault _ | .misuse _ => []

end Search

namespace SearchService

/-- Searches by a query. There may be no client to send it with. -/
def send (service : SearchService) (s : Selection) (index : Except BackendError Reply) : Search :=
  let q := service.query s
  let sent : Index.Client.Outcome (List Match) :=
    match index with
    | .ok reply => Index.Client.query q.call reply
    | .error e => ⟨[], .error (.backend e)⟩
  match sent.result with
  | .error e =>
    ⟨sent.calls, Search.queryRecord q s.sort :: Search.failureRecords e, .error (.index e)⟩
  | .ok found =>
    ⟨sent.calls, [Search.queryRecord q s.sort],
      (service.order.arrange (metadataPrice ·.metadata) s.sort found).mapError .sorting⟩

/-- One search. -/
def search (service : SearchService) (payload : Value) (index : Except BackendError Reply) :
    Search :=
  match Selection.parse payload with
  | .error e => ⟨[], [], .error (.selection e)⟩
  | .ok s => service.send s index

end SearchService

end Storefront
