import Storefront.Index.Client
import Storefront.Parameter

/-!
# Operations by name

A caller may name an operation of the client and give its arguments in order, by name, or both. The
client itself is the first argument of each operation.

* `Operation.perform`: an operation on such arguments.
-/

namespace Storefront.Index

/-- The operations of the client. -/
inductive Operation where
  | query
  | upsert
  | reset
  | info
deriving DecidableEq

namespace Operation

def all : List Operation := [.query, .upsert, .reset, .info]

def name : Operation → String
  | .query => "query"
  | .upsert => "upsert"
  | .reset => "reset"
  | .info => "info"

def ofName? (t : Text) : Option Operation := all.find? fun o => t == o.name

/-- What the client is called in messages. -/
def owner : String := "VectorIndexClient"

/-- The name of an operation in messages. -/
def fullName (o : Operation) : Text := owner ++ "." ++ o.name

/-- The parameters of an operation behind the client. -/
def ownParameters : Operation → List Parameter
  | .query =>
    [⟨"vector", none⟩, ⟨"top_k", none⟩, ⟨"filter", some .null⟩,
     ⟨"include_metadata", some (.bool true)⟩, ⟨"include_vectors", some (.bool true)⟩]
  | .upsert => [⟨"records", none⟩]
  | .reset | .info => []

def parameters (o : Operation) : List Parameter := ⟨"self", none⟩ :: o.ownParameters

/-- Carries out an operation with arguments under the names of its parameters. -/
def run (o : Operation) (arguments : Fields) (reply : Reply) : Client.Outcome Value :=
  let argument (name : Text) : Value := (Fields.get? arguments name).getD .null
  match o with
  | .query =>
    let sent := Client.query
      (Client.prepare (argument "vector") (argument "top_k") (argument "include_metadata")
        (argument "include_vectors") (argument "filter")) reply
    ⟨sent.calls, sent.result.map fun ms => .list (ms.map Match.toValue)⟩
  | .upsert => Client.upsert (argument "records") reply
  | .reset => Client.reset reply
  | .info => Client.info reply

/-- Carries out an operation on arguments that were given in order and by name. -/
def perform (o : Operation) (placed : List Value) (named : Fields) (reply : Reply) :
    Except ArgumentMistake (Client.Outcome Value) :=
  (Parameter.bind o.fullName o.parameters (.null :: placed) named).map fun arguments =>
    o.run arguments reply

end Operation

end Storefront.Index
