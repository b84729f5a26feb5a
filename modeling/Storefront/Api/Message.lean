import Storefront.Text.Case
import Storefront.Value.Basic

/-!
# Requests and responses

What a client sends and what it is sent, with bodies as values where they are JSON. Names of header
fields are looked up in any case of letters, and responses use lower case.
-/

namespace Storefront.Api

/-- A request; a body that is missing is empty. -/
structure Request where
  method : Text
  target : Text
  headers : List (Text × Text)
  body : List UInt8

/-- The first header field of a request with this name, which is given in lower case. -/
def Request.header? (r : Request) (name : String) : Option Text :=
  (r.headers.find? fun h => h.1.lower == (name : Text)).map (·.2)

/-- The content of a response: JSON, plain text, or what is made elsewhere, which is a page or the
description of the service. -/
inductive Body where
  | json (v : Value)
  | text (t : Text)
  | page
  | description

structure Response where
  status : Nat
  headers : List (String × Text)
  body : Body

namespace Response

/-- A JSON response. -/
def ofJson (status : Nat) (v : Value) : Response :=
  ⟨status, [("content-type", "application/json")], .json v⟩

/-- A response of plain text. -/
def ofText (status : Nat) (t : Text) : Response :=
  ⟨status, [("content-type", "text/plain; charset=utf-8")], .text t⟩

/-- A JSON response with a message in it. -/
def ofMessage (status : Nat) (message : Text) : Response :=
  ofJson status (.object [("message", .text message)])

/-- A JSON response with details in it. -/
def ofDetail (status : Nat) (detail : Value) : Response :=
  ofJson status (.object [("detail", detail)])

/-- The response with more header fields. -/
def withHeaders (r : Response) (headers : List (String × Text)) : Response :=
  { r with headers := r.headers ++ headers }

/-- What is left of a response when the request asks for its head only; a page stays what it is. -/
def head (r : Response) : Response :=
  match r.body with
  | .page => r
  | .json _ | .text _ | .description => { r with body := .text "" }

end Response

end Storefront.Api
