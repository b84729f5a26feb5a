import Storefront.Validation.Scalar

/-!
# Search results

One match as it is sent to callers: an id, a score, and the stored vector and metadata if there are
any.
-/

namespace Storefront

open Validation (Flaw Checked)

/-- The id of a match: a text or an integer. -/
inductive MatchId where
  | text (t : Text)
  | number (n : Int)
deriving DecidableEq

/-- One match as it is sent to callers. -/
structure SearchResult where
  id : MatchId
  score : Binary64
  vector : Option (List Binary64)
  metadata : Option Fields

namespace MatchId

/-- A text where the value can be read as one, and otherwise an integer. -/
def check (v : Value) : Checked MatchId :=
  match Validation.text v, Validation.integer v with
  | .ok s, _ => .ok (.text s)
  | .error _, .ok n => .ok (.number n)
  | .error noText, .error noInteger =>
    .error [⟨[.choice "str"], noText⟩, ⟨[.choice "int"], noInteger⟩]

def toValue : MatchId → Value
  | .text s => .text s
  | .number n => .int n

end MatchId

namespace SearchResult

/-- A list of numbers, or null. -/
def checkVector (v : Value) : Checked (Option (List Binary64)) :=
  match v with
  | .null => .ok none
  | .list vs =>
    (Checked.items (fun item => Checked.ofFlaw (Validation.double item)) vs).map some
  | _ => .error [⟨[], .listType⟩]

/-- An object, or null. -/
def checkMetadata (v : Value) : Checked (Option Fields) :=
  match v with
  | .null => .ok none
  | .object fields => .ok (some fields)
  | _ => .error [⟨[], .objectType⟩]

def check (v : Value) : Checked SearchResult :=
  match v with
  | .object fields =>
    Checked.ap (Checked.ap (Checked.ap (Checked.ap (.ok SearchResult.mk)
      (Checked.required fields "id" MatchId.check))
      (Checked.required fields "score" fun w => Checked.ofFlaw (Validation.double w)))
      (Checked.optional fields "vector" none checkVector))
      (Checked.optional fields "metadata" none checkMetadata)
  | _ => .error [⟨[], .modelType "SearchResult"⟩]

def vectorValue (r : SearchResult) : Value :=
  (r.vector.map fun xs => Value.list (xs.map .float)).getD .null

def metadataValue (r : SearchResult) : Value := (r.metadata.map Value.object).getD .null

def toValue (r : SearchResult) : Value :=
  .object
    [("id", r.id.toValue),
     ("score", .float r.score),
     ("vector", r.vectorValue),
     ("metadata", r.metadataValue)]

end SearchResult

end Storefront
