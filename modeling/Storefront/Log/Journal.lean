import Storefront.Log.Loggers
import Storefront.Log.Mask
import Storefront.Log.Template
import Storefront.Parameter
import Storefront.Settings
import Storefront.Text.Utf8

/-!
# The log journal

Everything that decides what a log entry looks like and whether it is written: the rendering, the
secrets, the threshold, and the fields that are bound to all entries for the time of a request.

* `Journal.configure`: a new rendering, new secrets and a new threshold.
* `Journal.bind`, `Journal.clear`: the fields that all entries share.
* `Journal.write`: what a record adds to the journal.
* `Journal.writePlain`: what a line from elsewhere adds, which goes by the threshold alone.

Only JSON entries are kept in the journal; lines for the console are for people to read.
-/

namespace Storefront.Log

/-- What is reported. -/
structure Record where
  logger : Text
  level : Level
  event : Text
  fields : Fields

/-- A line of the journal: an entry, or a line of text from elsewhere. -/
inductive Line where
  | entry (fields : Fields)
  | text (t : Text)

/-- How entries are written. -/
inductive Rendering where
  | json
  | console
deriving DecidableEq

/-- What can be configured. The threshold is named by a word, and the secrets are in a list; callers
may give anything for both. -/
structure Configuration where
  rendering : Rendering
  threshold : Value
  secrets : Value

/-- Why a configuration is not taken over. -/
inductive ConfigurationError where
  | secrets (m : Misuse)
  | threshold (e : ThresholdError)

namespace ConfigurationError

def label : ConfigurationError → String
  | .secrets m => m.label
  | .threshold e => e.label

def message : ConfigurationError → Text
  | .secrets m => m.message
  | .threshold e => e.message

end ConfigurationError

/-- JSON in production unless it is chosen otherwise, debug entries where the settings ask for
them, and the token of the index as the only secret. -/
def Configuration.ofSettings (s : Settings) (json : Option Bool) : Configuration where
  rendering := if json.getD s.isProduction then .json else .console
  threshold := .text (if s.debug then "DEBUG" else "INFO" : Text)
  secrets := .list [.text s.indexToken]

namespace Configuration

/-- What configuring is called in messages, and where it is found. -/
def operation : Text := "configure_logging"

def place : Text := "core.logging."

/-- What can be chosen by name. Whether entries bear their time is settled already. -/
def parameters : List Parameter :=
  [⟨"json_logs", some (.bool false)⟩, ⟨"log_level", some (.text "INFO")⟩,
   ⟨settled, some (.bool true)⟩, ⟨"secrets", some (.list [])⟩]
where
  settled : Text := "include_timestamp"

/-- A configuration from choices by name. -/
def ofChoices (choices : Fields) : Except ArgumentMistake Configuration := do
  if (Fields.get? choices parameters.settled).isSome then
    throw (.namedTwice (place ++ operation) parameters.settled)
  let chosen ← Parameter.bind operation parameters [] choices
  let choice (name : Text) : Value := (Fields.get? chosen name).getD .null
  pure ⟨if (choice "json_logs").truthy then .json else .console, choice "log_level",
    choice "secrets"⟩

end Configuration

/-- The state of logging. Nothing is written until an output is attached. -/
structure Journal where
  rendering : Rendering
  secrets : Secrets
  threshold : Nat
  attached : Bool
  context : Fields
  loggers : Loggers

namespace Journal

def initial : Journal := ⟨.console, .ofTexts [], Level.warning.rank, false, [], .initial⟩

/-- Configures the journal. Rendering and secrets are replaced before the threshold is looked up,
and stay replaced when it is none; where its word names something else, this is noticed only after
the output was attached. The loggers are left alone unless there is a new threshold. -/
def configure (j : Journal) (c : Configuration) : Journal × Except ConfigurationError Unit :=
  match Secrets.read c.secrets with
  | .error m => (j, .error (.secrets m))
  | .ok secrets =>
    let replaced := { j with rendering := c.rendering, secrets := secrets }
    match Log.threshold c.threshold with
    | .ok n =>
      ({ replaced with threshold := n, attached := true, loggers := j.loggers.renew }, .ok ())
    | .error e =>
      ({ replaced with attached := j.attached || e.isOtherName }, .error (.threshold e))

/-- Binds fields to all entries from now on. -/
def bind (j : Journal) (fields : Fields) : Journal :=
  { j with context := Value.setFields j.context fields }

/-- Drops the bound fields. -/
def clear (j : Journal) : Journal := { j with context := [] }

/-! ## Thresholds -/

/-- The lowest rank that a logger may write at, where it is asked about a rank. -/
def thresholdOf (j : Journal) (logger : Text) (rank : Int) : Nat :=
  lowestRank (j.loggers.seenBy logger rank) j.threshold logger

/-- Whether a logger writes at a rank, which need not be that of a level. Nothing is written at ranks up
to zero. -/
def admitsRank (j : Journal) (logger : Text) (rank : Int) : Bool :=
  j.attached && decide (0 < rank ∧ (j.thresholdOf logger rank : Int) ≤ rank)

/-- Whether a logger writes at a level. -/
def admits (j : Journal) (logger : Text) (level : Level) : Bool := j.admitsRank logger level.rank

/-! ## Entries -/

/-- Fields about faults in the program, which entries do not carry. -/
def droppedFields : List Text := ["exc_info", "stack_info"]

/-- The name of a logger in entries; the logger without a name is the root. -/
def loggerName (logger : Text) : Text := if logger.isEmpty then "root" else logger

/-- A byte string as the text that it encodes. -/
def decoded : Value → Value
  | .bytes b => .text (Text.decodeUtf8 b)
  | v => v

mutual

/-- A value as JSON can hold it: byte strings are shown in quotes. -/
def shown : Value → Value
  | .bytes b => .text (Value.repr (.bytes b))
  | .list vs => .list (shownItems vs)
  | .object fields => .object (shownFields fields)
  | v => v

def shownItems : List Value → List Value
  | [] => []
  | v :: rest => shown v :: shownItems rest

def shownFields : List (Text × Value) → List (Text × Value)
  | [] => []
  | (k, v) :: rest => (k, shown v) :: shownFields rest

end

/-- The fields of a record over those that are bound, with the event, the level and the logger over
both. -/
def compose (j : Journal) (r : Record) : Fields :=
  Value.setFields (Value.setFields j.context r.fields)
    [("event", .text r.event), ("level", .text r.level.name),
     ("logger", .text (loggerName r.logger))]

/-- The fields of an entry before masking. -/
def dressed (fields : Fields) : Fields :=
  (fields.filter fun f => !droppedFields.contains f.1).map fun (k, v) => (k, decoded v)

/-- An entry, where a logger writes at a level. -/
def put (j : Journal) (logger : Text) (level : Level) (masked : Fields) : List Line :=
  if j.rendering = .json ∧ j.admits logger level then [.entry (shownFields masked)] else []

/-- What a record adds. Records come from loggers whose names have no two dots in a row, so they do not
depend on the loggers that there are, and leave none that others depend on. -/
def write (j : Journal) (r : Record) : List Line :=
  j.put r.logger r.level (maskFields j.secrets.texts (dressed (j.compose r)))

/-- What several records add. -/
def writeAll (j : Journal) (rs : List Record) : List Line := rs.flatMap j.write

/-- What a line adds that comes from elsewhere: it is neither composed nor masked, and dropped
where its template has a mistake. -/
def writePlain (j : Journal) (logger : Text) (rank : Int) (template : Text)
    (arguments : List Value) : List Line :=
  if j.admitsRank logger rank then
    match Template.fill template arguments with
    | .ok t => [.text t]
    | .error _ => []
  else []

end Journal

end Storefront.Log
