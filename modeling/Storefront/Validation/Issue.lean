import Storefront.Value.Basic

/-!
# Validation issues

What is wrong with a value that was checked against a shape, and where in it. All issues of a value
are collected, in the order in which the parts are checked.

* `Flaw.code`, `Flaw.message`: how a flaw is reported.
* `Checked`: a checked value or its issues; `Checked.ap` joins the issues of two parts.
-/

namespace Storefront.Validation

/-- One step of the way to a part of a value. -/
inductive Step where
  | field (name : String)
  | index (n : Nat)
  | choice (kind : String)

def Step.text : Step → String
  | .field name => name
  | .index n => toString n
  | .choice kind => kind

def Step.toValue : Step → Value
  | .field name => .text name
  | .index n => .int n
  | .choice kind => .text kind

/-- What is wrong with one part of a value. -/
inductive Flaw where
  | missing
  | boolType
  | boolParsing
  | intType
  | intFromFloat
  | intParsing
  | intParsingSize
  | finiteNumber
  | floatType
  | floatParsing
  | textType
  | textUnicode
  | notAmong (names : List String)
  | listType
  | objectType
  | modelType (model : String)
  | below (bound : Nat)
  | notAbove (bound : Nat)
  | above (bound : Nat)
  | refused (reason : Text)

namespace Flaw

def code : Flaw → String
  | .missing => "missing"
  | .boolType => "bool_type"
  | .boolParsing => "bool_parsing"
  | .intType => "int_type"
  | .intFromFloat => "int_from_float"
  | .intParsing => "int_parsing"
  | .intParsingSize => "int_parsing_size"
  | .finiteNumber => "finite_number"
  | .floatType => "float_type"
  | .floatParsing => "float_parsing"
  | .textType => "string_type"
  | .textUnicode => "string_unicode"
  | .notAmong _ => "enum"
  | .listType => "list_type"
  | .objectType => "dict_type"
  | .modelType _ => "model_type"
  | .below _ => "greater_than_equal"
  | .notAbove _ => "greater_than"
  | .above _ => "less_than_equal"
  | .refused _ => "value_error"

/-- Names in quotes, separated by commas, with "or" before the last. -/
def alternatives : List String → String
  | [] => ""
  | [s] => "'" ++ s ++ "'"
  | [s, t] => "'" ++ s ++ "' or '" ++ t ++ "'"
  | s :: rest => "'" ++ s ++ "', " ++ alternatives rest

def message : Flaw → Text
  | .missing => "Field required"
  | .boolType => "Input should be a valid boolean"
  | .boolParsing => "Input should be a valid boolean, unable to interpret input"
  | .intType => "Input should be a valid integer"
  | .intFromFloat => "Input should be a valid integer, got a number with a fractional part"
  | .intParsing => "Input should be a valid integer, unable to parse string as an integer"
  | .intParsingSize => "Unable to parse input string as an integer, exceeded maximum size"
  | .finiteNumber => "Input should be a finite number"
  | .floatType => "Input should be a valid number"
  | .floatParsing => "Input should be a valid number, unable to parse string as a number"
  | .textType => "Input should be a valid string"
  | .textUnicode => "Input should be a valid string, unable to parse raw data as a unicode string"
  | .notAmong names => "Input should be " ++ alternatives names
  | .listType => "Input should be a valid list"
  | .objectType => "Input should be a valid dictionary"
  | .modelType model => "Input should be a valid dictionary or instance of " ++ model
  | .below bound => "Input should be greater than or equal to " ++ toString bound
  | .notAbove bound => "Input should be greater than " ++ toString bound
  | .above bound => "Input should be less than or equal to " ++ toString bound
  | .refused reason => "Value error, " ++ reason

end Flaw

/-- A flaw and the way to the part that has it. -/
structure Issue where
  path : List Step
  flaw : Flaw

/-- An issue in words; `whole` is the name of the value that was checked. -/
def Issue.describe (i : Issue) (whole : String) : Text :=
  let place := String.intercalate "." (i.path.map Step.text)
  (if place.isEmpty then whole else place : Text) ++ ": " ++ i.flaw.message

/-- A checked value, or all the issues that were found. -/
abbrev Checked (α : Type) := Except (List Issue) α

namespace Checked

/-- Applies a checked function to a checked argument; the issues of both are kept in order. -/
def ap {α β : Type} (f : Checked (α → β)) (x : Checked α) : Checked β :=
  match f, x with
  | .ok g, .ok a => .ok (g a)
  | .ok _, .error issues => .error issues
  | .error issues, .ok _ => .error issues
  | .error issues, .error more => .error (issues ++ more)

/-- Says where the issues of a part are. -/
def under {α : Type} (step : Step) (x : Checked α) : Checked α :=
  x.mapError fun issues => issues.map fun i => ⟨step :: i.path, i.flaw⟩

/-- A part with at most one flaw. -/
def ofFlaw {α : Type} (x : Except Flaw α) : Checked α := x.mapError fun flaw => [⟨[], flaw⟩]

/-- Checks every item of a list from position `n` on and keeps the issues of all. -/
def itemsFrom {α : Type} (check : Value → Checked α) (n : Nat) : List Value → Checked (List α)
  | [] => .ok []
  | v :: rest =>
    Checked.ap (Checked.ap (.ok List.cons) (Checked.under (.index n) (check v)))
      (itemsFrom check (n + 1) rest)

/-- Checks every item of a list. -/
def items {α : Type} (check : Value → Checked α) (vs : List Value) : Checked (List α) :=
  itemsFrom check 0 vs

/-- Checks a field that has to be there. -/
def required {α : Type} (fields : Fields) (name : String)
    (check : Value → Checked α) : Checked α :=
  Checked.under (.field name) <|
    match fields.get? name with
    | some v => check v
    | none => .error [⟨[], .missing⟩]

/-- Checks a field that may be absent. -/
def optional {α : Type} (fields : Fields) (name : String) (default : α)
    (check : Value → Checked α) : Checked α :=
  match fields.get? name with
  | some v => Checked.under (.field name) (check v)
  | none => .ok default

end Checked

end Storefront.Validation
