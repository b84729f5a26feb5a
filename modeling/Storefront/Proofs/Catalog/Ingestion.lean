import Mathlib
import Storefront.Index.Client
import Storefront.Proofs.Catalog.Products
import Storefront.Proofs.Filter.Selecting
import Storefront.Proofs.Search.Distance
import Storefront.Proofs.Selection.Accepting

/-!
# Records that are stored and returned

The record of a product says all about it twice: its metadata is the product field by field, and its
vector has the codes of the names and the price that stand there. The client sends records as they are
and hands on what the index returns of them.

* `Product.check_metadata`: the product that the metadata of a record describes.
* `Product.ofRecord_metadata`, `ProductVector.decode?_toValue`: the vector, from metadata and back.
* `Product.toPoint?_inj`: products that share a vector.
* `Index.Client.upsert_toValue`, `Index.Client.query_of_returns`: records on their way.
-/

namespace Storefront

open Validation (Checked Flaw)

/-! ## Codes -/

def Color.ofCode? (n : Int) : Option Color := all.find? fun c => (c.code : Int) == n

def Size.ofCode? (n : Int) : Option Size := all.find? fun s => (s.code : Int) == n

theorem Color.ofCode?_code (c : Color) : ofCode? c.code = some c := by cases c <;> rfl

theorem Size.ofCode?_code (s : Size) : ofCode? s.code = some s := by cases s <;> rfl

namespace ProductVector

/-- What the components of a vector stand for: two codes and a price. -/
def decode? : Value → Option (Color × Size × Binary64)
  | .list [.int color, .int size, .float price] => do
    let c ← Color.ofCode? color
    let s ← Size.ofCode? size
    some (c, s, price)
  | _ => none

theorem decode?_toValue (c : Color) (s : Size) (x : Binary64) :
    decode? (toValue ⟨c.code, s.code, x⟩) = some (c, s, x) := by
  rw [toValue, decode?, Color.ofCode?_code, Size.ofCode?_code]
  rfl

end ProductVector

/-! ## Records -/

theorem Color.codeOf?_name (c : Color) : Attribute.color.codeOf? c.name = some c.code := by
  cases c <;> rfl

theorem Size.codeOf?_name (s : Size) : Attribute.size.codeOf? s.name = some s.code := by
  cases s <;> rfl

theorem Attribute.encode_text {a : Attribute} {t : Text} {n : Nat} (h : a.codeOf? t = some n) :
    a.encode (.text t) = .ok n := by
  simp only [encode, h]

namespace Product

/-- The metadata of a record are the product, field by field. -/
theorem check_metadata (p : Product) : check p.metadata = .ok p := by
  have field {α : Type} {fields : Fields} {name : String} {rule : Value → Except Flaw α} {v : Value}
      {a : α} (hField : fields.get? name = some v) (hRule : rule v = .ok a) :
      Checked.required fields name (fun w => Checked.ofFlaw (rule w)) = .ok a :=
    Checked.required_eq_ok_iff.2 ⟨v, hField, Checked.ofFlaw_eq_ok_iff.2 hRule⟩
  rw [metadata, check]
  refine Checked.ap_eq_ok_iff.2 ⟨.mk p.id p.name p.imageId p.color p.size, p.price, ?_, ?_, rfl⟩
  · refine Checked.ap_eq_ok_iff.2 ⟨.mk p.id p.name p.imageId p.color, p.size, ?_, ?_, rfl⟩
    · refine Checked.ap_eq_ok_iff.2 ⟨.mk p.id p.name p.imageId, p.color, ?_, ?_, rfl⟩
      · refine Checked.ap_eq_ok_iff.2 ⟨.mk p.id p.name, p.imageId, ?_, field rfl rfl, rfl⟩
        refine Checked.ap_eq_ok_iff.2 ⟨.mk p.id, p.name, ?_, field rfl rfl, rfl⟩
        exact Checked.ap_eq_ok_iff.2 ⟨.mk, p.id, rfl, field rfl rfl, rfl⟩
      · exact field rfl (Selection.member_color p.color)
    · exact field rfl (Selection.member_size p.size)
  · exact field rfl p.price.check_amount

theorem ofRecord_metadata (p : Product) : ProductVector.ofRecord p.metadata = .ok p.vector := by
  have hColor : p.metadata.get Attribute.color.name = .ok (.text p.color.name) := rfl
  have hSize : p.metadata.get Attribute.size.name = .ok (.text p.size.name) := rfl
  have hPrice : p.metadata.get "price" = .ok (.float p.price.amount) := rfl
  have hColorCode := Attribute.encode_text p.color.codeOf?_name
  have hSizeCode := Attribute.encode_text p.size.codeOf?_name
  rw [ProductVector.ofRecord, hColor, hSize, hPrice]
  refine bind_eq_ok_iff.2 ⟨_, rfl, bind_eq_ok_iff.2 ⟨_, hColorCode, ?_⟩⟩
  exact bind_eq_ok_iff.2 ⟨_, rfl, bind_eq_ok_iff.2 ⟨_, hSizeCode, rfl⟩⟩

/-- A record says what the product is, in its metadata and in its vector, under its id. -/
structure IsDescribedBy (p : Product) (r : VectorRecord) : Prop where
  product : check r.metadata = .ok p
  id : r.metadata.get "id" = .ok r.id
  encoded : ∃ v, ProductVector.ofRecord r.metadata = .ok v ∧ v.toValue = r.vector
  decoded : ∃ c s x, ProductVector.decode? r.vector = some (c, s, x) ∧
    r.metadata.get "color" = .ok (.text c.name) ∧ r.metadata.get "size" = .ok (.text s.name) ∧
    r.metadata.get "price" = .ok (.float x)

theorem isDescribedBy_toRecord (p : Product) : p.IsDescribedBy p.toRecord where
  product := p.check_metadata
  id := rfl
  encoded := ⟨_, p.ofRecord_metadata, rfl⟩
  decoded := ⟨_, _, _, ProductVector.decode?_toValue p.color p.size p.price.amount, rfl, rfl, rfl⟩

/-! ## Vectors -/

/-- Products share a vector if they have the same color, the same size and the same price. -/
theorem toPoint?_inj {p q : Product} (hp : p.HasFinitePrice) (hq : q.HasFinitePrice) :
    p.toRecord.vector.toPoint? = q.toRecord.vector.toPoint? ↔
      p.color = q.color ∧ p.size = q.size ∧ p.cost = q.cost := by
  rw [toPoint?_toRecord hp, toPoint?_toRecord hq]
  constructor
  · intro h
    -- The three coordinates, one by one; no two names of an attribute share a code.
    have hPoint := WithLp.toLp_injective _ (Option.some.inj h)
    have hColor : ((p.color.code : ℤ) : ℝ) = q.color.code := congrFun hPoint 0
    have hSize : ((p.size.code : ℤ) : ℝ) = q.size.code := congrFun hPoint 1
    have hCost : p.cost = q.cost := congrFun hPoint 2
    push_cast at hColor hSize
    exact ⟨Selection.code_color_injective (Nat.cast_injective hColor),
      Selection.code_size_injective (Nat.cast_injective hSize), hCost⟩
  · rintro ⟨hColor, hSize, hCost⟩
    rw [hColor, hSize, hCost]

end Product

/-! ## On the way -/

/-- A record as an object. -/
def VectorRecord.toValue (r : VectorRecord) : Value :=
  .object [("id", r.id), ("vector", r.vector), ("metadata", r.metadata)]

namespace Index

namespace Match

/-- The item shows the record with a score, whatever else there is in it. -/
structure Shows (item : Value) (r : VectorRecord) (score : Value) : Prop where
  id : item.field? "id" = some r.id
  score : item.field? "score" = some score
  vector : item.field? "vector" = some r.vector
  metadata : item.field? "metadata" = some r.metadata

/-- The match of a record. -/
def ofRecord (r : VectorRecord) (score : Value) : Match := ⟨r.id, score, r.vector, r.metadata⟩

theorem member_of_field? {item v : Value} {name : String} (h : item.field? name = some v) :
    member item name = .ok v := by
  cases item with
  | object fields =>
    rw [Value.field?] at h
    rw [member, h]
  | _ => cases h

theorem ofItem_of_shows {item score : Value} {r : VectorRecord} (h : Shows item r score)
    (hVector : ∃ vs, r.vector = .list vs) : ofItem item = .ok (ofRecord r score) := by
  obtain ⟨vs, hList⟩ := hVector
  have hRead : vectorOf item = .ok r.vector := by
    rw [vectorOf, h.vector, hList]
    rfl
  rw [ofItem, member_of_field? h.id, member_of_field? h.score, hRead, h.metadata]
  rfl

end Match

namespace Client

theorem readRecord_toValue (r : VectorRecord) : readRecord r.toValue = .ok r := rfl

/-- Records that are given as objects are sent as they are. -/
theorem upsert_toValue (rs : List VectorRecord) (reply : Reply) :
    upsert (.list (rs.map VectorRecord.toValue)) reply = call (.upsert rs) reply := by
  have hRead : (rs.map VectorRecord.toValue).mapM readRecord = .ok rs := by
    rw [mapM_eq_ok_iff, List.forall₂_map_left_iff]
    exact List.forall₂_same.2 fun r _ => readRecord_toValue r
  have hItems : (Value.list (rs.map VectorRecord.toValue)).items.bind (·.mapM readRecord) = .ok rs :=
    hRead
  rw [upsert, hItems]

/-- What the index returns of records is handed on, with the scores. -/
theorem query_of_shows {items : List Value} {shown : List (VectorRecord × Value)}
    (h : List.Forall₂ (fun item e => Match.Shows item e.1 e.2) items shown)
    (hVector : ∀ e ∈ shown, ∃ vs, e.1.vector = .list vs) (q : Query) :
    (query q (.value (.list items))).result = .ok (shown.map fun e => .ofRecord e.1 e.2) := by
  have hRead : items.mapM Match.ofItem = .ok (shown.map fun e => .ofRecord e.1 e.2) := by
    rw [mapM_eq_ok_iff, List.forall₂_map_right_iff]
    refine (forall₂_and_right.2 ⟨h, hVector⟩).imp ?_
    rintro item e ⟨hShows, hList⟩
    exact Match.ofItem_of_shows hShows hList
  have hMatches : readMatches (.list items) = .ok (shown.map fun e => .ofRecord e.1 e.2) := hRead
  rw [query, call]
  exact bind_eq_ok_iff.2 ⟨_, rfl, mapError_eq_ok_iff.2 hMatches⟩

end Client

end Index

/-! ## Products that are kept -/

namespace Product

open Index

/-- The records of the products describe them, and share a vector only where color, size and price are
the same. The client sends the records as they are, and hands on what the index returns of them, in
any order and with any scores. -/
structure AreKept (ps : List Product) : Prop where
  described : ∀ p ∈ ps, p.IsDescribedBy p.toRecord
  vectors : ∀ p ∈ ps, ∀ q ∈ ps, p.toRecord.vector.toPoint? = q.toRecord.vector.toPoint? ↔
    p.color = q.color ∧ p.size = q.size ∧ p.cost = q.cost
  sent : ∀ reply : Reply,
    (Client.upsert (.list (ps.map fun p => p.toRecord.toValue)) reply).calls =
      [.upsert (ps.map toRecord)]
  returned : ∀ {items : List Value} {shown : List (VectorRecord × Value)} (q : Query),
    (∀ e ∈ shown, e.1 ∈ ps.map toRecord) →
    List.Forall₂ (fun item e => Match.Shows item e.1 e.2) items shown →
      (Client.query q (.value (.list items))).result = .ok (shown.map fun e => .ofRecord e.1 e.2)

/-- Products whose prices are finite are kept. -/
theorem areKept_of_hasFinitePrice {ps : List Product} (h : ∀ p ∈ ps, p.HasFinitePrice) :
    AreKept ps where
  described p _ := p.isDescribedBy_toRecord
  vectors p hp q hq := toPoint?_inj (h p hp) (h q hq)
  sent reply := by
    have hSent := Client.upsert_toValue (ps.map toRecord) reply
    rw [List.map_map] at hSent
    exact congrArg Client.Outcome.calls hSent
  returned {items shown} q hMem hShown := by
    refine Client.query_of_shows hShown (fun e he => ?_) q
    obtain ⟨p, -, hRecord⟩ := List.mem_map.1 (hMem e he)
    exact ⟨_, congrArg VectorRecord.vector hRecord.symm⟩

/-- Shirts that cost nothing, with zeros of different signs as prices. -/
def freeShirts : List Product :=
  [Catalog.product .blue .medium 0 ⟨.finite false .zero, rfl⟩,
   Catalog.product .blue .medium 1 ⟨.finite true .zero, rfl⟩]

theorem areKept_freeShirts : AreKept freeShirts ∧
    ∃ p q, freeShirts = [p, q] ∧ p.price ≠ q.price ∧
      p.toRecord.vector.toPoint? = q.toRecord.vector.toPoint? := by
  have hFinite : ∀ p ∈ freeShirts, p.HasFinitePrice :=
    List.forall_mem_cons.2 ⟨rfl, List.forall_mem_singleton.2 rfl⟩
  have hKept : AreKept freeShirts := areKept_of_hasFinitePrice hFinite
  refine ⟨hKept, _, _, rfl, by decide, ?_⟩
  refine (hKept.vectors _ List.mem_cons_self _ (List.mem_cons_of_mem _ List.mem_cons_self)).2 ?_
  exact ⟨rfl, rfl, rfl⟩

end Product

end Storefront
