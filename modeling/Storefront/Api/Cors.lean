import Storefront.Api.Message

/-!
# Cross-origin requests

Browsers send the origin of a page along and ask, before some requests, whether they may be sent.
Origins are compared character by character; credentials, all methods of a fixed list and all header
fields are allowed, and requests into private networks are not.

* `Cors.preflight?`: the answer to a browser that asks before a request.
* `Cors.decorate`: the header fields that let a browser show a response to a page.
-/

namespace Storefront.Api.Cors

/-- The methods that pages may use. -/
def methods : List String := ["DELETE", "GET", "HEAD", "OPTIONS", "PATCH", "POST", "PUT", "QUERY"]

/-- Whether pages of an origin may use the service; a star allows all of them. -/
def allows (origins : List Text) (origin : Text) : Bool :=
  origins.contains "*" || origins.contains origin

/-- The header fields about the origin of a page. -/
def originHeaders (origins : List Text) (origin : Text) : List (String × Text) :=
  ("access-control-allow-credentials", "true")
    :: (if allows origins origin then [("access-control-allow-origin", origin)] else [])

/-- What an answer to a question before a request depends on. -/
def preflightVary : String :=
  "Origin, Access-Control-Request-Method, Access-Control-Request-Headers, "
    ++ "Access-Control-Request-Private-Network"

/-- What a browser asks before a request: the origin of the page, the method, perhaps header fields,
and whether the request would enter a private network. -/
structure Question where
  origin : Text
  method : Text
  fields : Option Text
  privateNetwork : Bool

/-- What is not allowed about a request that is asked for. -/
def refusals (origins : List Text) (q : Question) : List String :=
  (if allows origins q.origin then [] else ["origin"])
    ++ (if methods.any fun m => q.method == m then [] else ["method"])
    ++ (if q.privateNetwork then ["private-network"] else [])

/-- The answer to a question; the header fields that it asks for are repeated. -/
def preflight (origins : List Text) (q : Question) : Response :=
  let refused := refusals origins q
  let response :=
    if refused.isEmpty then Response.ofText 200 "OK"
    else Response.ofText 400 ("Disallowed CORS " ++ String.intercalate ", " refused)
  let rules : List (String × Text) :=
    [("access-control-allow-methods", String.intercalate ", " methods),
     ("access-control-max-age", "600"),
     ("vary", preflightVary)]
  response.withHeaders
    (originHeaders origins q.origin ++ rules
      ++ (q.fields.map fun names => ("access-control-allow-headers", names)).toList)

/-- The question that a request is. -/
def question? (r : Request) : Option Question :=
  match r.header? "origin", r.header? "access-control-request-method" with
  | some origin, some method =>
    if r.method = "OPTIONS" then
      some ⟨origin, method, r.header? "access-control-request-headers",
        (r.header? "access-control-request-private-network").isSome⟩
    else none
  | _, _ => none

/-- The answer to a request that is a question. -/
def preflight? (origins : List Text) (r : Request) : Option Response :=
  (question? r).map (preflight origins)

/-- A response to any other request. It depends on the origin, whether there is one or not. -/
def decorate (origins : List Text) (r : Request) (response : Response) : Response :=
  response.withHeaders
    (("vary", "Origin")
      :: (match r.header? "origin" with
        | some origin => originHeaders origins origin
        | none => []))

end Storefront.Api.Cors
