import Storefront.Index.Basic
import Storefront.Settings

/-!
# The index client

The client sends calls to the index and turns its faults into errors of the backend, so that
callers need to know neither the transport nor the index's own library. Each operation sends at
most one call and never repeats it.

* `Client.call`: one call and its outcome, with faults as callers see them.
* `Client.query`, `Client.upsert`, `Client.reset`, `Client.info`: the operations.
-/

namespace Storefront.Index

/-- A failure of the backend, with the fault that caused it. -/
inductive BackendError where
  | notConfigured
  | timedOut (method : String) (f : Fault)
  | notConnected (method : String) (f : Fault)
  | rejected (method : String) (f : Fault)
  | unreadable (method : String) (f : Fault)

namespace BackendError

/-- Whether the index could not be reached, or not even be tried. -/
def isUnavailable : BackendError → Bool
  | .notConfigured | .timedOut _ _ | .notConnected _ _ => true
  | .rejected _ _ | .unreadable _ _ => false

def label (e : BackendError) : String :=
  if e.isUnavailable then "BackendUnavailable" else "BackendError"

def cause? : BackendError → Option Fault
  | .notConfigured => none
  | .timedOut _ f | .notConnected _ f | .rejected _ f | .unreadable _ f => some f

/-- The message for operators. -/
def message : BackendError → Text
  | .notConfigured => "UPSTASH_VECTOR_REST_URL and UPSTASH_VECTOR_REST_TOKEN are required"
  | .timedOut method f => "Vector index " ++ method ++ " timed out: " ++ f.message
  | .notConnected method f => "Vector index " ++ method ++ " failed to connect: " ++ f.message
  | .rejected method f => "Vector index " ++ method ++ " rejected: " ++ f.message
  | .unreadable method f =>
    "Vector index " ++ method ++ " returned an unreadable response: " ++ f.describe

end BackendError

/-- How an operation of the client fails: as a failure of the backend, by a fault that is passed on
as it is, or because a value does not have the shape that is needed. -/
inductive ClientError where
  | backend (e : BackendError)
  | fault (f : Fault)
  | misuse (m : Misuse)

namespace ClientError

def label : ClientError → String
  | .backend e => e.label
  | .fault f => f.kind.label
  | .misuse m => m.label

def message : ClientError → Text
  | .backend e => e.message
  | .fault f => f.message
  | .misuse m => m.message

end ClientError

/-- What a fault of a call means to callers. -/
def ClientError.ofFault (method : String) (f : Fault) : ClientError :=
  match f.kind.origin with
  | .timeout _ => .backend (.timedOut method f)
  | .transport _ => .backend (.notConnected method f)
  | .rejected => .backend (.rejected method f)
  | .value | .notJson | .key => .backend (.unreadable method f)
  | _ => .fault f

/-- One match of a query, as the index returned it. -/
structure Match where
  id : Value
  score : Value
  vector : Value
  metadata : Value

namespace Match

def toValue (m : Match) : Value :=
  .object [("id", m.id), ("score", m.score), ("vector", m.vector), ("metadata", m.metadata)]

/-- What an object with fields as members is called in messages. -/
def memberOwner : String := "types.SimpleNamespace"

/-- A member of a returned item: a field of an object, and nothing for other values. -/
def member (item : Value) (name : String) : Except Misuse Value :=
  match item with
  | .object fields =>
    match Fields.get? fields name with
    | some v => .ok v
    | none => .error (.noMember memberOwner name)
  | _ => .error (.noMember item.kindName name)

/-- A stored vector as a list of whatever it holds; null where there is none. -/
def vectorOf (item : Value) : Except Misuse Value :=
  match (item.field? "vector").getD .null with
  | .null => .ok .null
  | v => v.items.map .list

/-- Reads one item of a query's answer. Id and score have to be there. -/
def ofItem (item : Value) : Except Misuse Match := do
  let id ← member item "id"
  let score ← member item "score"
  let vector ← vectorOf item
  pure ⟨id, score, vector, (item.field? "metadata").getD .null⟩

end Match

namespace Client

/-- What an operation did: the calls it sent, and its outcome. -/
structure Outcome (α : Type) where
  calls : List Call
  result : Except ClientError α

/-- Sends one call. -/
def call (c : Call) (reply : Reply) : Outcome Value where
  calls := [c]
  result :=
    match reply with
    | .value v => .ok v
    | .fault f => .error (.ofFault c.name f)

/-- The matches in a query's answer, in the order of the answer. -/
def readMatches (answer : Value) : Except Misuse (List Match) := do
  let items ← answer.items
  items.mapM Match.ofItem

/-- The query as it is sent: an empty filter is left out. -/
def prepare (vector topK includeMetadata includeVectors filter : Value) : Query :=
  ⟨vector, topK, includeMetadata, includeVectors, if filter.truthy then some filter else none⟩

/-- Sends a query and reads its matches. -/
def query (q : Query) (reply : Reply) : Outcome (List Match) :=
  let sent := call (.query q) reply
  { calls := sent.calls
    result := do
      let answer ← sent.result
      (readMatches answer).mapError .misuse }

/-- One record of unknown shape; its metadata may be missing. -/
def readRecord (v : Value) : Except Misuse VectorRecord := do
  let id ← v.get "id"
  let vector ← v.get "vector"
  let metadata ← v.getD "metadata" .null
  pure ⟨id, vector, metadata⟩

/-- Stores records. All of them are read before anything is sent. -/
def upsert (records : Value) (reply : Reply) : Outcome Value :=
  match records.items.bind (·.mapM readRecord) with
  | .ok rs => call (.upsert rs) reply
  | .error m => ⟨[], .error (.misuse m)⟩

/-- Removes all records. -/
def reset (reply : Reply) : Outcome Value := call .reset reply

/-- Asks for the statistics of the index. -/
def info (reply : Reply) : Outcome Value := call .info reply

end Client

/-! ## Connections -/

/-- Where the index is and how long to wait for it. -/
structure Connection where
  url : Text
  token : Text
  timeout : Binary64

namespace Connection

/-- Ten seconds, the longest time that connecting may take. -/
def maxConnect : Binary64 := Binary64.nearest false 10 1

/-- The time that connecting may take. -/
def connectTimeout (c : Connection) : Binary64 :=
  if maxConnect.lt c.timeout then maxConnect else c.timeout

/-- How often the index's own library repeats a call. -/
def retries : Nat := 0

/-- The connection with this address and token, or those of the settings in the place of empty
ones. -/
def make (url token : Text) (s : Settings) : Except BackendError Connection :=
  let url := if url.isEmpty then s.indexUrl else url
  let token := if token.isEmpty then s.indexToken else token
  if url.isEmpty || token.isEmpty then .error .notConfigured
  else .ok ⟨url, token, s.timeoutSeconds⟩

end Connection

end Storefront.Index
