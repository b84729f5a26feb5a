import Storefront.Api.Target
import Storefront.Settings

/-!
# Routes

Which path leads to which endpoint, and which methods the endpoint accepts. Pages about the service
exist in development only; its description exists always.

* `Route.find`: where a request leads.
-/

namespace Storefront.Api

/-- What the service offers. -/
inductive Endpoint where
  | description
  | page
  | health
  | detailedHealth
  | ready
  | live
  | products
deriving DecidableEq

namespace Endpoint

/-- The methods that an endpoint accepts. -/
def methods : Endpoint → List String
  | .description | .page => ["GET", "HEAD"]
  | .health | .detailedHealth | .ready | .live => ["GET"]
  | .products => ["POST"]

end Endpoint

/-- Where a request leads: to an endpoint, to one that does not accept the method, to the same path
with or without a slash at its end, or nowhere. -/
inductive Route where
  | endpoint (e : Endpoint)
  | refused (e : Endpoint)
  | moved (path : Text)
  | nowhere
deriving DecidableEq

namespace Route

/-- The paths that exist. -/
def table (s : Settings) : List (String × Endpoint) :=
  [("/openapi.json", .description)]
    ++ (if s.isDevelopment then
        [("/docs", .page), ("/docs/oauth2-redirect", .page), ("/redoc", .page)]
      else [])
    ++ [("/health", .health), ("/health/detailed", .detailedHealth), ("/ready", .ready),
        ("/live", .live), ("/api/products", .products)]

/-- The endpoint of a path. A line break at the end of the path does not count. -/
def lookup (s : Settings) (path : Text) : Option Endpoint :=
  ((table s).find? fun r => path == r.1 || path == r.1 ++ "\n").map (·.2)

/-- Where a method and a target lead. -/
def find (s : Settings) (method : Text) (t : Target) : Route :=
  match lookup s t.path with
  | some e => if e.methods.any fun m => method == m then .endpoint e else .refused e
  | none =>
    if t.path ≠ "/" ∧ (lookup s t.otherSlash).isSome then .moved t.otherSlash else .nowhere

end Route

end Storefront.Api
