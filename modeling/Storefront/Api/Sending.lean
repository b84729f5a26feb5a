import Storefront.Text.Utf8
import Storefront.Value.Basic

/-!
# Sending values

A response holds JSON in UTF-8, which some values cannot be written in: byte strings are sent as the
texts that they encode, and halves of surrogate pairs, which belong to no text in UTF-8, are refused.
Numbers that are not finite are sent as null. Lists and objects may be nested up to a limit.

* `Sending.prepare`: a value as it is sent, or the first fault in it.
-/

namespace Storefront.Api.Sending

/-- Why a value cannot be sent. Halves are told by how many code points stand in front of them and
by how many of them there are in a row. -/
inductive Fault where
  | bytes (f : Text.Utf8Fault)
  | halves (first : CodePoint) (position count : Nat)
  | tooDeep

namespace Fault

def label : Fault → String := fun _ => "PydanticSerializationError"

/-- What is wrong with a text that has halves in it. -/
def halvesMessage (first : CodePoint) (position count : Nat) : Text :=
  let place : Text :=
    if count ≤ 1 then
      "character '" ++ Text.ofChars (Text.hexEscape first.toNat) ++ "' in position " ++ toString position
    else "characters in position " ++ toString position ++ "-" ++ toString (position + count - 1)
  "UnicodeEncodeError: 'utf-8' codec can't encode " ++ place ++ ": surrogates not allowed"

def message (f : Fault) : Text :=
  let reason : Text :=
    match f with
    | .bytes f => f.message
    | .halves first position count => halvesMessage first position count
    | .tooDeep => "ValueError: Maximum serialization depth exceeded"
  "Error serializing to JSON: " ++ reason

end Fault

/-- How many lists and objects may contain each other. -/
def maxDepth : Nat := 255

def isHalf (p : CodePoint) : Bool := p.char?.isNone

/-- A text without halves. -/
def prepareText (t : Text) : Except Fault Text :=
  match t.dropWhile (!isHalf ·) with
  | [] => .ok t
  | p :: rest =>
    .error (.halves p (t.takeWhile (!isHalf ·)).length ((rest.takeWhile isHalf).length + 1))

mutual

/-- A value as it is sent, with at most `depth` lists and objects inside each other. -/
def prepareWithin (depth : Nat) : Value → Except Fault Value
  | .float x => .ok (if x.isFinite then .float x else .null)
  | .text t => (prepareText t).map .text
  | .bytes b => ((Text.readUtf8 b).mapError .bytes).map .text
  | .list vs => if depth = 0 then .error .tooDeep else (prepareItems (depth - 1) vs).map .list
  | .object fields =>
    if depth = 0 then .error .tooDeep else (prepareFields (depth - 1) fields).map .object
  | v => .ok v

def prepareItems (depth : Nat) : List Value → Except Fault (List Value)
  | [] => .ok []
  | v :: rest => do
    let w ← prepareWithin depth v
    let ws ← prepareItems depth rest
    pure (w :: ws)

def prepareFields (depth : Nat) : List (Text × Value) → Except Fault (List (Text × Value))
  | [] => .ok []
  | (k, v) :: rest => do
    let name ← prepareText k
    let w ← prepareWithin depth v
    let ws ← prepareFields depth rest
    pure ((name, w) :: ws)

end

/-- A value as it is sent. -/
def prepare (v : Value) : Except Fault Value := prepareWithin maxDepth v

end Storefront.Api.Sending
