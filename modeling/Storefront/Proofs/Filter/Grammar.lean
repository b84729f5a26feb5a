import Storefront.Filter.Expression

/-!
# The filter language

How a filter is read and evaluated. A filter compares fields with literals; `AND` binds tighter
than `OR`, and parentheses group.

* `Token.read?`: the words, parentheses and quoted texts of a filter.
* `Condition.read?`: the condition that a filter writes down.
* `Condition.holds`: whether a condition holds of a record. A number never equals a text.
-/

namespace Storefront.Filter

/-! ## Tokens -/

/-- A part of a filter. Names, operators, numerals and connectives are words; which of them a word
is depends on its place. -/
inductive Token where
  | opening
  | closing
  | word (w : Text)
  | text (t : Text)
deriving DecidableEq

namespace Token

/-- Ends a word in front of some tokens; an empty word is none. -/
def endWord (w : Text) (ts : List Token) : List Token := if w.isEmpty then ts else .word w :: ts

mutual

/-- The tokens of a text; the word `w` has been begun in front of it. -/
def readFrom (w : Text) : Text → Option (List Token)
  | [] => some (endWord w [])
  | p :: rest =>
    if p = .char ' ' then (readFrom [] rest).map (endWord w)
    else if p = .char '(' then (readFrom [] rest).map fun ts => endWord w (.opening :: ts)
    else if p = .char ')' then (readFrom [] rest).map fun ts => endWord w (.closing :: ts)
    else if p = .char '"' then (readQuoted false [] rest).map (endWord w)
    else readFrom (w ++ [p]) rest

/-- The tokens of a text that begins inside of quotes, behind the quoted text `t`. A character
behind a backslash is `escaped`, which means that it stands for itself. -/
def readQuoted (escaped : Bool) (t : Text) : Text → Option (List Token)
  | [] => none
  | p :: rest =>
    if escaped then readQuoted false (t ++ [p]) rest
    else if p = .char '"' then (readFrom [] rest).map (.text t :: ·)
    else if p = .char '\\' then readQuoted true t rest
    else readQuoted false (t ++ [p]) rest

end

/-- The tokens of a filter; there are none where a quoted text does not end. -/
def read? (t : Text) : Option (List Token) := readFrom [] t

end Token

/-! ## Conditions -/

/-- What a field is compared with. -/
inductive Literal where
  | number (n : Numeral)
  | text (t : Text)
deriving DecidableEq

structure Comparison where
  field : Text
  operator : Operator
  literal : Literal
deriving DecidableEq

inductive Condition where
  | compare (c : Comparison)
  | and (a b : Condition)
  | or (a b : Condition)
deriving DecidableEq

/-- Letters, digits and underscores; every character beyond ASCII counts as a letter. -/
def isNamePoint : CodePoint → Bool
  | .char c => c.isAlphanum || c == '_' || 0x80 ≤ c.toNat
  | .half _ => false

/-- The names of fields: no digit comes first. -/
def isName : Text → Bool
  | [] => false
  | p :: rest => isNamePoint p && !p.isDigit && rest.all isNamePoint

def Literal.ofToken? : Token → Option Literal
  | .text t => some (.text t)
  | .word w => (w.chars?.bind Numeral.read?).map .number
  | _ => none

/-- Reads a condition from the front of some tokens and leaves the others. -/
abbrev ConditionReader := List Token → Option (Condition × List Token)

namespace ConditionReader

/-- A field, an operator and a literal. -/
def comparison? : ConditionReader
  | .word field :: .word symbol :: literal :: rest =>
    match Operator.ofSymbol? symbol, Literal.ofToken? literal with
    | some operator, some literal =>
      if isName field then some (.compare ⟨field, operator, literal⟩, rest) else none
    | _, _ => none
  | _ => none

/-- A comparison, or a condition in parentheses. -/
def atom? (inner : ConditionReader) : ConditionReader
  | .opening :: rest =>
    match inner rest with
    | some (c, .closing :: more) => some (c, more)
    | _ => none
  | ts => comparison? ts

/-- Items with a connective between them, at most a given number of them. -/
def chain? (connective : Text) (join : Condition → Condition → Condition) (item : ConditionReader) :
    Nat → ConditionReader
  | 0, _ => none
  | n + 1, ts =>
    match item ts with
    | some (c, .word w :: rest) =>
      if w = connective then
        (chain? connective join item n rest).map fun (d, more) => (join c d, more)
      else some (c, .word w :: rest)
    | result => result

/-- Alternatives of requirements, with parentheses inside of each other down to some depth. There
are never more items than tokens and one. -/
def alternatives? : Nat → ConditionReader
  | 0, _ => none
  | depth + 1, ts =>
    chain? "OR" .or (chain? "AND" .and (atom? (alternatives? depth)) (ts.length + 1))
      (ts.length + 1) ts

end ConditionReader

/-- The condition that a filter writes down. -/
def Condition.read? (t : Text) : Option Condition := do
  let ts ← Token.read? t
  let (c, rest) ← ConditionReader.alternatives? (ts.length + 1) ts
  if rest.isEmpty then some c else none

/-! ## Evaluation -/

/-- Whether a number stands in a relation to another one. -/
def Operator.relates (operator : Operator) (x y : Binary64) : Bool :=
  match operator with
  | .eq => x.numEq y
  | .ne => !x.numEq y
  | .lt => x.lt y
  | .le => x.le y
  | .gt => y.lt x
  | .ge => y.le x

/-- The number in a field. -/
def numberIn? : Value → Option Binary64
  | .int n => Binary64.ofInt? n
  | .float x => some x
  | _ => none

/-- Whether the comparison holds of a field's value. Numbers are compared with the double that is
nearest to the numeral, texts are equal or not, and values of different kinds are not equal. -/
def Comparison.holdsOf (c : Comparison) (v : Value) : Bool :=
  match c.literal with
  | .number n =>
    match numberIn? v with
    | some x => c.operator.relates x n.toBinary64
    | none => c.operator == .ne
  | .text t =>
    match v with
    | .text s => if s = t then c.operator == .eq else c.operator == .ne
    | _ => c.operator == .ne

/-- Whether a condition holds of a record; no comparison holds of a field that is missing. -/
def Condition.holds (record : Value) : Condition → Bool
  | .compare c => ((record.field? c.field).map c.holdsOf).getD false
  | .and a b => a.holds record && b.holds record
  | .or a b => a.holds record || b.holds record

end Storefront.Filter
