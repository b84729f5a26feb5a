import Storefront.Search.Session

/-!
# What requests share

The client of the index and the search service are made when a request first needs them, and the
requests behind it share them. What could not be made is not kept, so the next request tries again.

* `Shared.getClient`, `Shared.getService`: what is kept, or else what is made now.
* `Shared.search`: a search by the shared service.
-/

namespace Storefront.Api

open Index (BackendError Connection Reply)

/-- What was made so far. The client that the service holds is the shared one. -/
structure Shared where
  client : Option Connection
  service : Option SearchService

namespace Shared

def initial : Shared := ⟨none, none⟩

/-- What is kept, or else what is made, and what is kept from then on. -/
def obtain {ε α : Type} (kept : Option α) (made : Except ε α) : Except ε α × Option α :=
  match kept with
  | some a => (.ok a, some a)
  | none => (made, made.toOption)

def getClient (s : Settings) (shared : Shared) : Except BackendError Connection × Shared :=
  let (client, kept) := obtain shared.client (Connection.make "" "" s)
  (client, { shared with client := kept })

def getService (s : Settings) (shared : Shared) : Except StrategyError SearchService × Shared :=
  let (service, kept) := obtain shared.service (SearchService.ofSettings s)
  (service, { shared with service := kept })

/-- One search by the service. It asks for the client only with a payload that is accepted. -/
def search (s : Settings) (service : SearchService) (payload : Value) (reply : Reply)
    (shared : Shared) : Search × Shared :=
  let (done, session) :=
    Session.step (Connection.make "" "" s) ⟨service, shared.client⟩ ⟨payload, .steady reply⟩
  (done, { shared with client := session.client })

end Shared

end Storefront.Api
