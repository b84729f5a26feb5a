import Storefront.Sorting
import Storefront.SortMode
import Storefront.Value.Access

/-!
# Result order

The index ranks records by their distance to a probe vector and knows no other order. The price in
the probe says which prices come first: none of them, the lowest or the highest. That order is
rough, because colors and sizes count as well; the metadata strategy therefore sorts the page that
was returned by the prices in its metadata.

* `ResultOrder.probe`: the probe vector of a sort mode.
* `ResultOrder.arrange`: a page of results in the order in which it is sent.
-/

namespace Storefront

/-- How a page of results is brought into order. -/
inductive OrderingStrategy where
  | probe
  | metadata
deriving DecidableEq

namespace OrderingStrategy

def name : OrderingStrategy → String
  | .probe => "probe"
  | .metadata => "metadata"

/-- The name of the strategy in descriptions of the service. -/
def label : OrderingStrategy → String
  | .probe => "ProbeVectorOrdering"
  | .metadata => "MetadataPriceOrdering"

end OrderingStrategy

/-- Why there is no strategy: the value is not one of the names, or no name at all. -/
inductive StrategyError where
  | unknown (v : Value)
  | misuse (m : Misuse)

namespace StrategyError

def label : StrategyError → String
  | .unknown _ => "ValueError"
  | .misuse m => m.label

def message : StrategyError → Text
  | .unknown v => "Unknown ordering strategy: " ++ v.repr
  | .misuse m => m.message

end StrategyError

/-- The strategy that a value names. -/
def OrderingStrategy.ofValue (v : Value) : Except StrategyError OrderingStrategy :=
  match v with
  | .text t =>
    if t = OrderingStrategy.probe.name then .ok .probe
    else if t = OrderingStrategy.metadata.name then .ok .metadata
    else .error (.unknown v)
  | .list _ | .object _ => .error (.misuse (.notHashable v))
  | _ => .error (if v.hasLongInt then .misuse .integerTooLong else .unknown v)

/-- A strategy with the prices that probes are built from, which are numbers of either kind. -/
structure ResultOrder where
  strategy : OrderingStrategy
  averagePrice : Value
  maxPrice : Value

/-- The price in the metadata of a result: zero where there is no metadata or no price in it. -/
def metadataPrice (metadata : Value) : Except Misuse Binary64 := do
  let present := if metadata.truthy then metadata else .object []
  let price ← present.getD "price" (.int 0)
  price.toBinary64

/-- The price of a result that is given as an object. -/
def resultPrice (result : Value) : Except Misuse Binary64 := do
  let metadata ← result.getD "metadata" .null
  metadataPrice metadata

namespace ResultOrder

/-- The price in the probe of a sort mode. -/
def probePrice (o : ResultOrder) : SortMode → Value
  | .unordered => o.averagePrice
  | .priceAscending => .int 0
  | .priceDescending => o.maxPrice

/-- The vector whose neighbours are looked for. -/
def probe (o : ResultOrder) (sort : SortMode) : List Value := [.int 0, .int 0, o.probePrice sort]

/-- The results sorted by their prices; results of one price keep their order. For descending
prices the list is turned around before and after, so that equal prices keep their order as
well. -/
def sortByPrice {α : Type} (descending : Bool) (price : α → Except Misuse Binary64)
    (results : List α) : Except Misuse (List α) := do
  let keyed ← results.mapM fun r => do
    let p ← price r
    pure (p, r)
  let below (a b : Binary64 × α) : Bool := a.1.lt b.1
  let sorted :=
    if descending then (Sorting.sortBy below keyed.reverse).reverse else Sorting.sortBy below keyed
  pure (sorted.map (·.2))

/-- A page of results in the order in which it is sent. -/
def arrange {α : Type} (o : ResultOrder) (price : α → Except Misuse Binary64) (sort : SortMode)
    (results : List α) : Except Misuse (List α) :=
  match o.strategy, sort with
  | .probe, _ => .ok results
  | .metadata, .unordered => .ok results
  | .metadata, .priceAscending => sortByPrice false price results
  | .metadata, .priceDescending => sortByPrice true price results

end ResultOrder

end Storefront
