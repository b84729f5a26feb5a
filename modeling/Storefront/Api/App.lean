import Storefront.Api.Cors
import Storefront.Api.Handler
import Storefront.Api.Route

/-!
# The application

A request is given an id, traced in the journal, answered, and forgotten. The id comes from the
request or is a fresh one; it stands in every entry about the request and in its response. When
handling a request ends without a response, the failure is reported and the client is told nothing
but that there was one.

* `App.start`: the application for some settings, and what it reports at its start.
* `App.handle`: the response to a request, with the calls and the lines of the journal.
* `App.run`, `App.after`: the responses to requests that arrive one after the other, and what the
  application is behind them.
* `App.stop`: what it reports at its end.
-/

namespace Storefront.Api

open Index (Call)

/-- The application: its settings, which never change, its journal, and what its requests share. -/
structure App where
  settings : Settings
  journal : Log.Journal
  shared : Shared

/-- A request as it arrives: with the id that it is given if it brings none, and with what the index
would answer to its calls. -/
structure Arrival where
  request : Request
  fresh : Text
  replies : Replies

/-- The response to a request, with what happened on the way. -/
structure Exchange where
  response : Response
  calls : List Call
  lines : List Log.Line

namespace App

/-! ## The start -/

/-- The records at the start of the application. -/
def startRecords (s : Settings) : List Log.Record :=
  ⟨"api.app", .info, "Starting product filter API",
    [("environment", .text s.environment), ("port", .int s.port), ("top_k", .int s.topK),
     ("ordering", .text s.orderingStrategy)]⟩
  :: (if s.indexConfigured then []
    else [⟨"api.app", .warning, "Vector index credentials not set; product queries will fail", []⟩])

/-- Starts the application. -/
def start (s : Settings) : App × List Log.Line :=
  let journal := (Log.Journal.initial.configure (.ofSettings s none)).1
  (⟨s, journal, .initial⟩, journal.writeAll (startRecords s))

/-! ## Answers -/

/-- What an endpoint does for a request. The pages are made elsewhere. -/
def serve (s : Settings) (r : Request) (replies : Replies) (shared : Shared) :
    Endpoint → Handled × Shared
  | .description =>
    (Handler.respond ⟨200, [("content-type", "application/json")], .description⟩, shared)
  | .page => (Handler.respond ⟨200, [("content-type", "text/html; charset=utf-8")], .page⟩, shared)
  | .health => (Handler.health, shared)
  | .detailedHealth => Handler.detailedHealth s replies.info shared
  | .ready => (Handler.ready s, shared)
  | .live => (Handler.live, shared)
  | .products => Handler.products s r replies.query shared

/-- What is done for a request that is no question of a browser. -/
def route (s : Settings) (r : Request) (replies : Replies) (shared : Shared) : Handled × Shared :=
  let target := Target.parse r.target
  match Route.find s r.method target with
  | .endpoint e => serve s r replies shared e
  | .refused e =>
    (Handler.respond ((Response.ofDetail 405 (.text "Method Not Allowed")).withHeaders
      [("allow", String.intercalate ", " e.methods)]), shared)
  | .moved path =>
    let origin := target.originOf (r.header? "host")
    (Handler.respond ⟨307, [("location", target.location origin path)], .text ""⟩, shared)
  | .nowhere => (Handler.respond (.ofDetail 404 (.text "Not Found")), shared)

/-- A response as it is sent for a request, cross-origin rules included. -/
def dress (s : Settings) (r : Request) (response : Response) : Response :=
  Cors.decorate s.corsOrigins r (if r.method = "HEAD" then response.head else response)

/-- What is done for a request, questions of browsers included. -/
def answer (s : Settings) (r : Request) (replies : Replies) (shared : Shared) : Handled × Shared :=
  match Cors.preflight? s.corsOrigins r with
  | some response => (Handler.respond response, shared)
  | none =>
    let (handled, shared) := route s r replies shared
    ({ handled with result := handled.result.map (dress s r) }, shared)

/-! ## Tracing -/

/-- The logger of the tracing. -/
def tracer : String := "core.middleware"

/-- The response to a request that could not be handled; it says nothing about the reason. -/
def failureResponse : Response := .ofText 500 "Internal Server Error"

/-- The record at the end of a request. -/
def endRecord : Except Crash Response → Log.Record
  | .ok response => ⟨tracer, .info, "Request completed", [("status_code", .int response.status)]⟩
  | .error crash =>
    ⟨tracer, .error, "Request failed",
      [("error", .text crash.message), ("error_type", .text crash.label)]⟩

/-- The response that is sent in the end, with the id of the request unless it was not handled. -/
def finalResponse (id : Text) : Except Crash Response → Response
  | .ok response => response.withHeaders [("x-request-id", id)]
  | .error _ => failureResponse

/-- Answers a request; `fresh` is the id of a request that has none. -/
def handle (app : App) (r : Request) (fresh : Text) (replies : Replies) : App × Exchange :=
  let id := (r.header? "x-request-id").getD fresh
  let journal := app.journal.bind
    [("request_id", .text id), ("method", .text r.method),
     ("path", .text (Target.parse r.target).shownPath)]
  let (handled, shared) := answer app.settings r replies app.shared
  let records :=
    ⟨tracer, .info, "Request started", []⟩ :: handled.records ++ [endRecord handled.result]
  (⟨app.settings, journal.clear, shared⟩,
    ⟨finalResponse id handled.result, handled.calls, journal.writeAll records⟩)

/-- Answers requests one after the other. -/
def run (app : App) : List Arrival → List Exchange
  | [] => []
  | a :: rest =>
    let (next, exchange) := app.handle a.request a.fresh a.replies
    exchange :: next.run rest

/-- The application behind requests that were answered one after the other. -/
def after (app : App) : List Arrival → App
  | [] => app
  | a :: rest => (app.handle a.request a.fresh a.replies).1.after rest

/-! ## The end -/

/-- The record at the end of the application. -/
def stopRecord : Log.Record := ⟨"api.app", .info, "Shutting down product filter API", []⟩

/-- What the application reports when it is stopped. -/
def stop (app : App) : List Log.Line := app.journal.write stopRecord

end App

end Storefront.Api
