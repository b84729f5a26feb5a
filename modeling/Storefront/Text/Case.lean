import Storefront.Text.Ranges
import Storefront.Text.Case.Table

/-!
# Upper and lower case

Full case mapping of texts: a character may become several, and a capital sigma becomes a final
sigma behind a cased letter and before none.
-/

namespace Storefront.Text

/-- The image of a code point under runs of shifts; a code point in no run is its own image. -/
def shiftCase (runs : List (Nat × Nat × Nat × Int)) (p : CodePoint) : CodePoint :=
  let n := p.toNat
  match runs.find? fun (first, last, step, _) => first ≤ n && n ≤ last && (n - first) % step == 0 with
  | some (_, _, _, shift) => (CodePoint.ofNat? ((n : Int) + shift).toNat).getD p
  | none => p

/-- The image of a code point under expansions first and runs of shifts otherwise. -/
def mapCase (expansions : List (Nat × List Nat)) (runs : List (Nat × Nat × Nat × Int))
    (p : CodePoint) : Text :=
  match expansions.lookup p.toNat with
  | some codes => codes.filterMap CodePoint.ofNat?
  | none => [shiftCase runs p]

/-- Upper case of a text. -/
def upper (t : Text) : Text := t.flatMap (mapCase upperExpansions upperRuns)

/-- Whether the first code point that counts is cased. -/
def meetsCased (t : Text) : Bool :=
  match t.dropWhile (inRanges caseIgnorableRanges) with
  | p :: _ => inRanges casedRanges p
  | [] => false

/-- Lower case of a text, where `before` holds what stands in front of it, nearest first. -/
def lowerAfter (before : Text) : Text → Text
  | [] => []
  | p :: rest =>
    let image : Text :=
      if p = 'Σ' then [if meetsCased before && !meetsCased rest then 'ς' else 'σ']
      else mapCase lowerExpansions lowerRuns p
    image ++ lowerAfter (p :: before) rest

/-- Lower case of a text. -/
def lower (t : Text) : Text := lowerAfter [] t

end Storefront.Text
