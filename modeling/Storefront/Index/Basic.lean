import Storefront.Json.Reader
import Storefront.Product

/-!
# The vector index

The index is a service of its own: it is called, and it answers with a value or fails. What it does
is given as data, and what it was asked for is recorded.

* `Index.Call`: the requests that the index understands.
* `Index.Fault`: a failure, by what went wrong and the text that came with it.
* `Index.Script`: how an index answers a sequence of calls.
-/

namespace Storefront.Index

/-! ## Calls -/

/-- The parts of a query; a filter is sent only where there is one. -/
structure Query where
  vector : Value
  topK : Value
  includeMetadata : Value
  includeVectors : Value
  filter : Option Value

/-- A request to the index. -/
inductive Call where
  | query (q : Query)
  | upsert (records : List VectorRecord)
  | reset
  | info

namespace Call

def name : Call → String
  | .query _ => "query"
  | .upsert _ => "upsert"
  | .reset => "reset"
  | .info => "info"

end Call

/-! ## Faults -/

/-- Ways in which a request runs out of time. -/
inductive Timeout where
  | unspecified
  | read
  | connect
  | write
  | pool
deriving DecidableEq

/-- Ways in which a request fails on its way to the index or back. -/
inductive Transport where
  | unspecified
  | transport
  | network
  | connect
  | read
  | write
  | close
  | protocol
  | localProtocol
  | remoteProtocol
  | unsupportedProtocol
  | proxy
  | decoding
  | redirects
  | status
deriving DecidableEq

/-- Ways in which the transport library is used wrongly; they are not failures of a request. -/
inductive TransportMisuse where
  | url
  | cookie
  | stream
deriving DecidableEq

/-- What went wrong in a call. Libraries derive kinds of their own from those listed here, and a kind
may also be `unrelated` to all of them. -/
inductive FaultKind where
  | timeout (t : Timeout)
  | transport (t : Transport)
  | transportMisuse (t : TransportMisuse)
  | rejected
  | client
  | value
  | notJson
  | key
  | type
  | runtime
  | system
  | index
  | member
  | unrelated (name : String)
  | derived (name : String) (base : FaultKind)
deriving DecidableEq

/-- The listed or unrelated kind that a kind is derived from, which is what callers go by. -/
def FaultKind.origin : FaultKind → FaultKind
  | .derived _ base => base.origin
  | k => k

/-- The class of a fault in messages and logs. -/
def FaultKind.label : FaultKind → String
  | .timeout .unspecified => "TimeoutException"
  | .timeout .read => "ReadTimeout"
  | .timeout .connect => "ConnectTimeout"
  | .timeout .write => "WriteTimeout"
  | .timeout .pool => "PoolTimeout"
  | .transport .unspecified => "HTTPError"
  | .transport .transport => "TransportError"
  | .transport .network => "NetworkError"
  | .transport .connect => "ConnectError"
  | .transport .read => "ReadError"
  | .transport .write => "WriteError"
  | .transport .close => "CloseError"
  | .transport .protocol => "ProtocolError"
  | .transport .localProtocol => "LocalProtocolError"
  | .transport .remoteProtocol => "RemoteProtocolError"
  | .transport .unsupportedProtocol => "UnsupportedProtocol"
  | .transport .proxy => "ProxyError"
  | .transport .decoding => "DecodingError"
  | .transport .redirects => "TooManyRedirects"
  | .transport .status => "HTTPStatusError"
  | .transportMisuse .url => "InvalidURL"
  | .transportMisuse .cookie => "CookieConflict"
  | .transportMisuse .stream => "StreamError"
  | .rejected => "UpstashError"
  | .client => "ClientError"
  | .value => "ValueError"
  | .notJson => "JSONDecodeError"
  | .key => "KeyError"
  | .type => "TypeError"
  | .runtime => "RuntimeError"
  | .system => "OSError"
  | .index => "IndexError"
  | .member => "AttributeError"
  | .unrelated name | .derived name _ => name

/-- The kinds of faults that have a name of their own here, each once. -/
def FaultKind.all : List FaultKind :=
  [.timeout .unspecified, .timeout .read, .timeout .connect, .timeout .write, .timeout .pool,
   .transport .unspecified, .transport .transport, .transport .network, .transport .connect,
   .transport .read, .transport .write, .transport .close, .transport .protocol,
   .transport .localProtocol, .transport .remoteProtocol, .transport .unsupportedProtocol,
   .transport .proxy, .transport .decoding, .transport .redirects, .transport .status,
   .transportMisuse .url, .transportMisuse .cookie, .transportMisuse .stream,
   .rejected, .client, .value, .notJson, .key, .type, .runtime, .system, .index, .member]

def FaultKind.ofLabel? (t : Text) : Option FaultKind := all.find? fun k => t == k.label

/-- A failure of a call, with the text that came with it. -/
structure Fault where
  kind : FaultKind
  text : Text
deriving DecidableEq

namespace Fault

/-- The fault of an answer that is not JSON: what is wrong, and where in the answer. -/
def ofDefect (problem answer : Text) (position : Nat) : Fault :=
  ⟨.notJson, problem ++ Json.place answer position⟩

/-- The text of a fault as it is reported: the name of a missing key is quoted. -/
def message (f : Fault) : Text :=
  match f.kind.origin with
  | .key => f.text.quoted
  | _ => f.text

/-- The fault with its kind, as it is shown in logs. -/
def describe (f : Fault) : Text := f.kind.label ++ "(" ++ f.text.quoted ++ ")"

end Fault

/-! ## Answers -/

/-- The outcome of one call. -/
inductive Reply where
  | value (v : Value)
  | fault (f : Fault)

/-- How an index answers a sequence of calls: always in one way, or with one reply after the other
and `Success` when they are used up. -/
inductive Script where
  | steady (r : Reply)
  | sequence (rs : List Reply)

namespace Script

/-- What calls that return nothing of interest answer. -/
def success : Reply := .value (.text "Success")

/-- The next reply and how the index goes on. -/
def next : Script → Reply × Script
  | .steady r => (r, .steady r)
  | .sequence [] => (success, .sequence [])
  | .sequence (r :: rest) => (r, .sequence rest)

end Script

end Storefront.Index
