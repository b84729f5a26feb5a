import Storefront.Api.Payload
import Storefront.Api.Sending
import Storefront.Api.Shared
import Storefront.SearchResult

/-!
# Handlers

What the service does for each kind of request. A handler may send one call to the index, and what
the index would answer is given to it. What requests share is handed on from one to the next. Faults
of the index that are no failures of the backend, and values of a wrong shape or without a form in
which they can be sent, are not handled: they end the request.

* `Handler.products`: a search.
* `Handler.health`, `Handler.detailedHealth`, `Handler.ready`, `Handler.live`: the state of the
  service.
-/

namespace Storefront.Api

open Index (BackendError Call Connection Reply)

/-- Why the handling of a request ended without a response. -/
structure Crash where
  label : String
  message : Text

/-- What a handler did: the calls that it sent, the records that it reported, and its response. -/
structure Handled where
  calls : List Call
  records : List Log.Record
  result : Except Crash Response

/-- What the index would answer to the calls of one request. -/
structure Replies where
  query : Reply
  info : Reply

namespace Handler

/-- A response without anything else. -/
def respond (r : Response) : Handled := ⟨[], [], .ok r⟩

/-- The end of a request by a value that cannot be sent. -/
def unsendable (f : Sending.Fault) : Crash := ⟨f.label, f.message⟩

/-! ## The state of the service -/

def serviceName : String := "product-filter-api"

/-- That the service runs. -/
def health : Handled :=
  respond (.ofJson 200 (.object [("status", .text "healthy"), ("service", .text serviceName)]))

/-- What is known about the index. -/
structure IndexState where
  status : String
  count : Value
  error : Option Text

/-- The state of an index by its statistics; an index without records is empty. -/
def indexState (statistics : Value) : IndexState :=
  let count := (statistics.field? "vector_count").getD .null
  ⟨if count.truthy then "connected" else "empty", count, none⟩

/-- The state of the service with that of the index. -/
def healthReport (s : Settings) (index : IndexState) : Value :=
  let connected := index.status == "connected"
  .object
    [("status", .text (if connected then "healthy" else "degraded")),
     ("service", .text serviceName),
     ("environment", .text s.environment),
     ("checks", .object
       [("config", .text "ok"),
        ("vector_index", .object
          [("status", .text index.status),
           ("vector_count", index.count),
           ("error", (index.error.map Value.text).getD .null)])])]

/-- The response with a report. -/
def report (s : Settings) (index : IndexState) : Except Crash Response :=
  ((Sending.prepare (healthReport s index)).mapError unsendable).map (.ofJson 200)

/-- The state of an index that failed. -/
def failedState (e : BackendError) : IndexState := ⟨"error", .null, some e.message⟩

/-- Asks the index for its statistics; there may be no client to ask with. -/
def askIndex (s : Settings) (client : Except BackendError Connection) (reply : Reply) : Handled :=
  match client with
  | .error e => ⟨[], [], report s (failedState e)⟩
  | .ok _ =>
    let asked := Index.Client.info reply
    match asked.result with
    | .ok statistics => ⟨asked.calls, [], report s (indexState statistics)⟩
    | .error (.backend e) => ⟨asked.calls, [], report s (failedState e)⟩
    | .error e => ⟨asked.calls, [], .error ⟨e.label, e.message⟩⟩

/-- The state of the service, for which the index is asked if it is configured. -/
def detailedHealth (s : Settings) (reply : Reply) (shared : Shared) : Handled × Shared :=
  if s.indexConfigured then
    let (client, shared) := shared.getClient s
    (askIndex s client reply, shared)
  else (⟨[], [], report s ⟨"not_configured", .null, none⟩⟩, shared)

/-- Whether searches can be answered. -/
def ready (s : Settings) : Handled :=
  respond (.ofJson 200 (.object (
    if s.indexConfigured then [("status", .text "ready")]
    else [("status", .text "not_ready"), ("reason", .text "vector_index_not_configured")])))

/-- That the process lives. -/
def live : Handled := respond (.ofJson 200 (.object [("status", .text "alive")]))

/-! ## Searches -/

/-- The logger of the handler for searches. -/
def logger : String := "api.routes.products"

/-- The record of a payload that was rejected. -/
def rejection (e : SelectionError) : Log.Record where
  logger := logger
  level := .info
  event := "Rejected filter payload"
  fields :=
    match e with
    | .unknownName u => [("attribute", .text u.family.name), ("value", u.value)]
    | _ => [("error", .text e.message)]

/-- What callers are told about any failure of the backend. -/
def internalError : String := "Internal server error"

/-- One result as it is sent. How deep its metadata is nested counts from the metadata on. -/
def sendResult (r : SearchResult) : Except Sending.Fault Value := do
  let id ← Sending.prepare r.id.toValue
  let score ← Sending.prepare (.float r.score)
  let vector ← Sending.prepare r.vectorValue
  let metadata ← Sending.prepare r.metadataValue
  pure (.object [("id", id), ("score", score), ("vector", vector), ("metadata", metadata)])

/-- The response with results. All of them have to be in order, or there is no response. -/
def resultsResponse (found : List Index.Match) : Except Crash Response :=
  match Validation.Checked.items SearchResult.check (found.map Index.Match.toValue) with
  | .ok results =>
    ((results.mapM sendResult).mapError unsendable).map fun vs => .ofJson 200 (.list vs)
  | .error issues =>
    .error ⟨"ResponseValidationError", Text.join "; " (issues.map fun i => i.describe "results")⟩

/-- The response to a search, and what is reported besides. -/
def outcome (result : Except SearchError (List Index.Match)) :
    List Log.Record × Except Crash Response :=
  match result with
  | .ok found => ([], resultsResponse found)
  | .error (.selection e) =>
    if e.isRejection then ([rejection e], .ok (.ofMessage 422 e.message))
    else ([], .error ⟨e.label, e.message⟩)
  | .error (.index (.backend _)) => ([], .ok (.ofMessage 500 internalError))
  | .error e => ([], .error ⟨e.label, e.message⟩)

/-- What is made of a search. -/
def conclude (done : Search) : Handled :=
  let (records, result) := outcome done.result
  ⟨done.calls, done.records ++ records, result⟩

/-- Searches by a payload. -/
def search (s : Settings) (payload : Value) (reply : Reply) (shared : Shared) :
    Handled × Shared :=
  match shared.getService s with
  | (.error e, shared) => (⟨[], [], .error ⟨e.label, e.message⟩⟩, shared)
  | (.ok service, shared) =>
    let (done, shared) := shared.search s service payload reply
    (conclude done, shared)

/-- A search by the payload of a request. -/
def products (s : Settings) (r : Request) (reply : Reply) (shared : Shared) : Handled × Shared :=
  match Payload.read r with
  | .ok payload => search s payload reply shared
  | .error refusal => (respond refusal.response, shared)

end Handler

end Storefront.Api
