import Storefront.Index.Basic

/-!
# What the index stores

The index stores at most one record under an id. A record that is stored later takes the place of the
one before it, and a removal leaves nothing.

* `Content.carryOut`: what is stored after a call.
* `Content.MayLeave`: what may be stored after a call that failed. A failure is noticed by the caller,
  and says nothing about how far the index came.
-/

namespace Storefront.Index

/-- The records that are stored, by their ids. -/
@[ext]
structure Content where
  record? : Text → Option VectorRecord

namespace Content

def empty : Content := ⟨fun _ => none⟩

/-- Stores a record under its id. -/
def put (c : Content) (r : VectorRecord) : Content :=
  ⟨fun id => if r.id.text? = some id then some r else c.record? id⟩

def putAll (c : Content) (rs : List VectorRecord) : Content := rs.foldl put c

/-- What is stored after a call that was carried out. -/
def carryOut (c : Content) : Call → Content
  | .upsert rs => c.putAll rs
  | .reset => empty
  | .query _ | .info => c

def carryOutAll (c : Content) (calls : List Call) : Content := calls.foldl carryOut c

/-- What may be stored after a call that failed: any of its records may have been stored, and any of
the records that it removes may be gone. -/
def MayLeave (c : Content) (call : Call) (left : Content) : Prop :=
  match call with
  | .upsert rs => ∃ stored, stored ⊆ rs ∧ left = c.putAll stored
  | .reset => ∀ id, left.record? id = c.record? id ∨ left.record? id = none
  | .query _ | .info => left = c

/-- The second content is the first one with some records in the place of what was stored under
their ids. -/
structure IsOverwritten (before : Content) (rs : List VectorRecord) (after : Content) : Prop where
  stored : ∀ r ∈ rs, ∃ id, r.id = .text id ∧ after.record? id = some r
  kept : ∀ id, (∀ r ∈ rs, r.id ≠ .text id) → after.record? id = before.record? id

/-! ## Overwriting -/

/-- The last record with an id is the one that stays. -/
theorem record?_putAll (c : Content) (rs : List VectorRecord) (id : Text) :
    (c.putAll rs).record? id =
      (rs.reverse.find? fun r => r.id.text? = some id).or (c.record? id) := by
  induction rs generalizing c with
  | nil => rfl
  | cons r rs ih =>
    have hTail : c.putAll (r :: rs) = (c.put r).putAll rs := rfl
    rw [hTail, ih, List.reverse_cons, List.find?_append, Option.or_assoc, put]
    by_cases hId : r.id.text? = some id
    · simp [hId]
    · simp [hId]

end Content

end Storefront.Index
