import Storefront.Json.Reader
import Storefront.Text.Case
import Storefront.Validation.Scalar

/-!
# Settings

The settings of the service come from arguments given in code, then from the environment, then
from defaults. All of them are checked at once; a bad value is never replaced by a default.

* `Settings.fromEnvironment`, `Settings.forTesting`: the two ways to obtain settings.
* `Settings.check`: the rules for each field and between fields.
-/

namespace Storefront

open Validation (Flaw Issue Checked)

/-- The settings of the service. -/
structure Settings where
  environment : Text
  debug : Bool
  host : Text
  port : Int
  corsOrigins : List Text
  indexUrl : Text
  indexToken : Text
  topK : Int
  timeoutSeconds : Binary64
  averagePrice : Binary64
  maxPrice : Binary64
  orderingStrategy : Text

/-- Why there are no settings. An environment variable that should hold a list may not be JSON,
and values may break the rules of their fields. -/
inductive SettingsError where
  | unreadableList (field : String) (reason : Json.ReadError)
  | invalid (issues : List Issue)

namespace SettingsError

def label : SettingsError → String
  | .unreadableList _ (.tooDeep c) => c.overflow.label
  | .unreadableList _ _ => "SettingsError"
  | .invalid _ => "ValidationError"

def message : SettingsError → Text
  | .unreadableList _ (.tooDeep c) => c.overflow.message
  | .unreadableList field _ =>
    "error parsing value for field \"" ++ field ++ "\" from source \"EnvSettingsSource\""
  | .invalid _ => ""

end SettingsError

namespace Settings

/-! ## Views -/

/-- Whether a text is one of some words, in any case of letters. -/
def isWord (words : List String) (t : Text) : Bool := words.any fun w => t.lower == w

def isDevelopment (s : Settings) : Bool := isWord ["development", "dev", "local"] s.environment

def isProduction (s : Settings) : Bool := isWord ["production", "prod"] s.environment

/-- Whether the index can be reached at all. -/
def indexConfigured (s : Settings) : Bool := !s.indexUrl.isEmpty && !s.indexToken.isEmpty

/-! ## Rules of the fields -/

/-- The non-empty pieces between commas, without the blanks around them. -/
def splitOrigins (t : Text) : List Text :=
  ((t.splitOn (.char ',')).map (Text.stripWhile Text.isBlank)).filter (!·.isEmpty)

/-- A list of origins, or a text with origins between commas. -/
def checkOrigins (v : Value) : Checked (List Text) :=
  match v with
  | .text s => .ok (splitOrigins s)
  | .list vs => Checked.items (fun item => Checked.ofFlaw (Validation.text item)) vs
  | _ => .error [⟨[], .listType⟩]

/-- The names of the ordering strategies, in any case and with blanks around them. -/
def checkStrategy (v : Value) : Except Flaw Text :=
  match v with
  | .text s =>
    let name := Text.lower (Text.stripWhile Text.isBlank s)
    if name = "probe" ∨ name = "metadata" then .ok name
    else .error (.refused ("ordering_strategy must be 'probe' or 'metadata', got " ++ name.quoted))
  | _ => Validation.text v

def checkTopK (v : Value) : Except Flaw Int := do
  let n ← Validation.integer v
  let n ← Validation.intAtMost 1000 n
  Validation.intAtLeast 1 n

def checkTimeout (v : Value) : Except Flaw Binary64 := do
  let x ← Validation.double v
  let x ← Validation.doubleAtMost 600 x
  Validation.doubleAbove 0 x

def checkAmount (v : Value) : Except Flaw Binary64 := do
  let x ← Validation.double v
  Validation.doubleAtLeast 0 x

/-! ## Defaults -/

def defaultOrigins : List Text := ["http://localhost:3000", "http://127.0.0.1:3000"]

/-- A whole number of seconds or currency units. -/
def whole (n : Nat) : Binary64 := Binary64.nearest false n 1

/-- The average price may not exceed the highest one. -/
def checkPrices (s : Settings) : Checked Settings :=
  if s.maxPrice.lt s.averagePrice then
    .error [⟨[], .refused ("catalog_average_price (" ++ s.averagePrice.text
      ++ ") must be <= catalog_max_price (" ++ s.maxPrice.text ++ ")")⟩]
  else .ok s

/-- Checks all fields, in their order, and then how the prices relate. -/
def check (fields : Fields) : Checked Settings := do
  let field {α : Type} (name : String) (rule : Value → Except Flaw α) (default : α) : Checked α :=
    Checked.optional fields name default fun v => Checked.ofFlaw (rule v)
  let settings ←
    Checked.ap (Checked.ap (Checked.ap (Checked.ap (Checked.ap (Checked.ap (Checked.ap
      (Checked.ap (Checked.ap (Checked.ap (Checked.ap (Checked.ap (.ok Settings.mk)
        (field "environment" Validation.text "development"))
        (field "debug" Validation.truthValue false))
        (field "host" Validation.text "0.0.0.0"))
        (field "port" Validation.integer 8080))
        (Checked.optional fields "cors_origins" defaultOrigins checkOrigins))
        (field "upstash_vector_rest_url" Validation.text ""))
        (field "upstash_vector_rest_token" Validation.text ""))
        (field "search_top_k" checkTopK 12))
        (field "search_timeout_seconds" checkTimeout (whole 10)))
        (field "catalog_average_price" checkAmount (whole 25)))
        (field "catalog_max_price" checkAmount (whole 50)))
        (field "ordering_strategy" checkStrategy "probe")
  checkPrices settings

/-! ## Sources -/

/-- The variables of an environment, and their values. -/
abbrev Environment := List (Text × Text)

def fieldNames : List String :=
  ["environment", "debug", "host", "port", "cors_origins", "upstash_vector_rest_url",
   "upstash_vector_rest_token", "search_top_k", "search_timeout_seconds",
   "catalog_average_price", "catalog_max_price", "ordering_strategy"]

/-- The field whose value a variable or an argument gives, in any case of letters. -/
def isName (name : Text) (field : String) : Bool := name.lower == field

/-- What the environment says about a field; of several spellings of its name the last counts. A
list is written as JSON there, and `null` says nothing. -/
def fromVariable (env : Environment) (field : String) :
    Except SettingsError (Option Value) :=
  match env.reverse.find? fun e => isName e.1 field with
  | none => .ok none
  | some (_, s) =>
    if field = "cors_origins" then
      match Json.read s with
      | .ok .null => .ok none
      | .ok v => .ok (some v)
      | .error reason => .error (.unreadableList field reason)
    else .ok (some (.text s))

/-- What the arguments say about a field; of several spellings of its name the first counts. -/
def fromArgument (arguments : Fields) (field : String) : Option Value :=
  (arguments.find? fun a => isName a.1 field).map (·.2)

/-- The values of all fields that are given somewhere. Every variable is read, also where an
argument is given. -/
def gather (arguments : Fields) (env : Environment) : List String → Except SettingsError Fields
  | [] => .ok []
  | field :: rest => do
    let fallback ← fromVariable env field
    let others ← gather arguments env rest
    match (fromArgument arguments field).or fallback with
    | some v => pure ((field, v) :: others)
    | none => pure others

/-- Settings from arguments and the environment. -/
def load (arguments : Fields) (env : Environment) : Except SettingsError Settings := do
  let fields ← gather arguments env fieldNames
  (check fields).mapError .invalid

/-- Settings from the environment alone. -/
def fromEnvironment (env : Environment) : Except SettingsError Settings := load [] env

/-- What stands in for a deployment in tests. -/
def testingArguments : Fields :=
  [("upstash_vector_rest_url", .text "https://test-vector.upstash.io"),
   ("upstash_vector_rest_token", .text "test-token"),
   ("environment", .text "testing"),
   ("debug", .bool true)]

/-- Settings for tests, with arguments that take the place of the usual ones or follow them. -/
def forTesting (arguments : Fields) (env : Environment) : Except SettingsError Settings :=
  load (Value.setFields testingArguments arguments) env

end Settings

end Storefront
