import Storefront.Api.Message
import Storefront.Json.Encoding
import Storefront.Json.Reader
import Storefront.Text.Blank
import Storefront.Text.Case

/-!
# Request payloads

The payload of a request is its body: a JSON value where the type of the content says so, and
otherwise the bytes as they came.

* `Payload.read`: the payload of a request.
* `Payload.Refusal.response`: the answer where there is none.
-/

namespace Storefront.Api.Payload

/-- Why a request has no payload. -/
inductive Refusal where
  | missing
  | malformed (d : Json.Defect)
  | unreadable

/-- Whether a type of content is JSON or built on JSON. -/
def isJsonType (contentType : Text) : Bool :=
  let mediaType := contentType.takeWhile (· != .char ';')
  let name := Text.lower (Text.stripWhile Text.isBlank mediaType)
  let subtype := (name.dropWhile (· != .char '/')).drop 1
  name.takeWhile (· != .char '/') == "application"
    && !subtype.contains '/'
    && (subtype == "json" || (Text.ofString "+json").isSuffixOf subtype)

/-- The payload of a request. -/
def read (r : Request) : Except Refusal Value :=
  if r.body.isEmpty then .error .missing
  else if isJsonType ((r.header? "content-type").getD "") then
    match (Json.decode r.body).map Json.read with
    | some (.ok v) => .ok v
    | some (.error (.malformed d)) => .error (.malformed d)
    | some (.error .integerTooLong) | some (.error (.tooDeep _)) | none => .error .unreadable
  else .ok (.bytes r.body)

/-- The answer to a request without a payload. -/
def Refusal.response : Refusal → Response
  | .missing =>
    .ofDetail 422 (.list [.object
      [("type", .text "missing"), ("loc", .list [.text "body"]), ("msg", .text "Field required"),
       ("input", .null)]])
  | .malformed d =>
    .ofDetail 422 (.list [.object
      [("type", .text "json_invalid"), ("loc", .list [.text "body", .int d.position]),
       ("msg", .text "JSON decode error"), ("input", .object []),
       ("ctx", .object [("error", .text d.problem.message)])]])
  | .unreadable => .ofDetail 400 (.text "There was an error parsing the body")

end Storefront.Api.Payload
