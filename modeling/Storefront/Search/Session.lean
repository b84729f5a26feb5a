import Storefront.Search.Service

/-!
# A service in use

A service is made once and then searched again and again. Unless it was given a client it asks for
the shared one when a search first gets to it, and keeps it from then on; a client that cannot be
made is asked for again by the next search.

* `Session.create`: a new service, from settings and from what it may be given instead.
* `Session.step`, `Session.run`: one search, and a sequence of searches.
-/

namespace Storefront

open Index (BackendError Connection Script)

/-- A service in use, with the client that it holds. -/
structure Session where
  service : SearchService
  client : Option Connection

/-- A search that is asked for: the payload, and how the index answers calls in the meantime. -/
structure SearchStep where
  payload : Value
  index : Script

namespace Session

/-- A service with the client and the order that it is given; without an order the settings say how
results are ordered. -/
def create (client : Option Connection) (order : Option ResultOrder) (s : Settings) :
    Except StrategyError Session :=
  match order with
  | some o => .ok ⟨⟨o, s.topK⟩, client⟩
  | none => (SearchService.ofSettings s).map fun service => ⟨service, client⟩

/-- The client to send calls with: the one that is held, or else the shared one. -/
def connect (shared : Except BackendError Connection) (session : Session) :
    Except BackendError Connection × Session :=
  match session.client, shared with
  | some c, _ => (.ok c, session)
  | none, .ok c => (.ok c, { session with client := some c })
  | none, .error e => (.error e, session)

/-- One search. Only a payload that is accepted gets to the client. -/
def step (shared : Except BackendError Connection) (session : Session) (s : SearchStep) :
    Search × Session :=
  match Selection.parse s.payload with
  | .error e => (⟨[], [], .error (.selection e)⟩, session)
  | .ok selection =>
    let (client, next) := session.connect shared
    (session.service.send selection (client.map fun _ => s.index.next.1), next)

/-- A sequence of searches. -/
def run (shared : Except BackendError Connection) (session : Session) :
    List SearchStep → List Search
  | [] => []
  | s :: rest =>
    let (search, next) := session.step shared s
    search :: next.run shared rest

end Session

end Storefront
