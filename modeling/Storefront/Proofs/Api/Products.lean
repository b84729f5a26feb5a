import Mathlib
import Storefront.Proofs.Api.Endpoints
import Storefront.Proofs.Search.Queries
import Storefront.Proofs.Settings.Usable

/-!
# Requests for products

A request for products is posted to one path. Nothing comes between it and the search: it is no
question of a browser, its response keeps its body, and the response to a search without one is
the same for all failures.

* `Request.AsksProducts`: the requests that lead to a search.
* `App.calls_of_asksProducts`, `App.sends_of_result`, `App.sends_of_crash`: what is sent for them is
  what the handler gives.
* `Handler.searchOf_of_service`, `Handler.map_make_of_configured`: the handler concludes a search of
  the service, with a client where the index is configured.
* `Request.BringsJson`: the requests with a payload in JSON.
-/

namespace Storefront.Api

open Index (Connection Reply)

/-- The request is posted to the path of the products. -/
def Request.AsksProducts (r : Request) : Prop :=
  r.method = "POST" ∧ (Target.parse r.target).path = "/api/products"

theorem Request.asks_of_asksProducts {r : Request} (h : r.AsksProducts) (s : Settings) :
    r.Asks s .products :=
  Request.asks_of_mem_served (by decide) h.2 ⟨"POST", List.mem_singleton_self _, h.1⟩

namespace App

variable {s : Settings} {a : Arrival}

theorem calls_of_asksProducts (h : a.request.AsksProducts) :
    (exchange s a).calls = (Handler.productsOf s a.request a.replies.query).calls :=
  calls_of_asks (Request.asks_of_asksProducts h s)

/-- The response of the handler is sent with its status and its body. -/
theorem sends_of_result (h : a.request.AsksProducts) {response : Response}
    (hResult : (Handler.productsOf s a.request a.replies.query).result = .ok response) :
    (exchange s a).Sends response.status response.body :=
  sends_of_asks (Request.asks_of_asksProducts h s) (by decide) hResult

/-- Where the handler has no response the same one is sent for all reasons. -/
theorem sends_of_crash (h : a.request.AsksProducts) {crash : Crash}
    (hResult : (Handler.productsOf s a.request a.replies.query).result = .error crash) :
    (exchange s a).Sends failureResponse.status failureResponse.body := by
  rw [Exchange.Sends, fails_of_asks (Request.asks_of_asksProducts h s) hResult]
  exact ⟨rfl, rfl⟩

end App

namespace Handler

/-- A payload in a request is searched for. -/
theorem productsOf_of_payload {s : Settings} {r : Request} {payload : Value}
    (h : Payload.read r = .ok payload) (reply : Reply) :
    productsOf s r reply = searchOf s payload reply := by
  rw [productsOf, h]

/-- The service that the settings describe is searched, by the client if there is one. -/
theorem searchOf_of_service {s : Settings} {service : SearchService}
    (h : SearchService.ofSettings s = .ok service) (payload : Value) (reply : Reply) :
    searchOf s payload reply =
      conclude (service.search payload ((Connection.make "" "" s).map fun _ => reply)) := by
  rw [searchOf, h]

theorem map_make_of_configured {s : Settings} (h : s.indexConfigured = true) (reply : Reply) :
    (Connection.make "" "" s).map (fun _ => reply) = .ok reply := by
  obtain ⟨c, hMake⟩ := Connection.exists_make_iff.2 h
  rw [hMake]
  rfl

end Handler

/-! ## JSON -/

/-- The body of the request is JSON by its content type and by itself, and says the payload. -/
def Request.BringsJson (r : Request) (payload : Value) : Prop :=
  Payload.isJsonType ((r.header? "content-type").getD "") = true ∧
    (Json.decode r.body).map Json.read = some (.ok payload)

theorem Payload.read_of_bringsJson {r : Request} {payload : Value} (h : r.BringsJson payload) :
    Payload.read r = .ok payload := by
  have hBody : r.body.isEmpty = false := by
    rw [List.isEmpty_eq_false_iff]
    intro hEmpty
    have hRead := h.2
    rw [hEmpty] at hRead
    cases hRead
  rw [Payload.read, hBody, if_neg Bool.false_ne_true, if_pos h.1, h.2]

/-- A request that posts a text as JSON. -/
def shopRequest (body : String) : Request where
  method := "POST"
  target := "/api/products"
  headers := [("Content-Type", "application/json")]
  body := body.toList.map fun c => UInt8.ofNat c.toNat

/-- The text of a payload that is accepted. -/
def anyShirts : String :=
  "\x7b\"color\":[\"blue\"],\"size\":[],\"price\":[0,1],\"sort\":\"none\"\x7d"

theorem asksProducts_shopRequest (body : String) : (shopRequest body).AsksProducts :=
  ⟨rfl, Route.path_of_mem_served (e := .products) (by decide)⟩

/-- The payload in the text is evaluated together with what becomes of it. -/
theorem exists_bringsJson (body : String) (p : Except SelectionError Selection → Bool)
    (h : ((Json.decode (shopRequest body).body).bind fun t => (Json.read t).toOption).any
      (fun v => p (Selection.parse v)) = true) :
    ∃ payload, (shopRequest body).BringsJson payload ∧ p (Selection.parse payload) = true := by
  obtain ⟨payload, hRead, hParse⟩ := (Option.any_eq_true _ _).1 h
  obtain ⟨t, hDecode, hOk⟩ := Option.bind_eq_some_iff.1 hRead
  have hType : Payload.isJsonType (((shopRequest "").header? "content-type").getD "") = true := by
    decide +kernel
  refine ⟨payload, ⟨hType, ?_⟩, hParse⟩
  rw [hDecode, Option.map_some]
  cases hJson : Json.read t with
  | error e =>
    rw [hJson] at hOk
    cases hOk
  | ok v =>
    rw [hJson] at hOk
    cases hOk
    rfl

end Storefront.Api
