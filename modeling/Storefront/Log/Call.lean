import Storefront.Log.Journal

/-!
# Calling a logger

Callers name a logger and a method of it, and give an event, fields, and arguments for the event.
All of it may be of any shape, so a call can go wrong before anything is written: names of fields may
be taken by the call itself, and arguments may not fit the event. Whatever is wrong shows also where
nothing would be written.

* `Method.ofName?`: the methods of a logger.
* `Call.perform`, `Call.loggersAfter`: what a call adds to the journal, and the loggers behind it.
* `PlainCall.perform`, `PlainCall.loggersAfter`: the same for a call from elsewhere, which knows neither
  fields nor secrets.
-/

namespace Storefront.Log

/-! ## Methods -/

/-- What a logger can be told to do. -/
inductive Method where
  | log (l : Level)
  | warn
  | fatal
  | exception
deriving DecidableEq

namespace Method

def all : List Method := Level.all.map .log ++ [.warn, .fatal, .exception]

def name : Method → String
  | .log l => l.name
  | .warn => "warn"
  | .fatal => "fatal"
  | .exception => "exception"

/-- The name in messages; `warn` is only another word. -/
def function (m : Method) : String :=
  match m with
  | .warn => Level.warning.name
  | _ => m.name

def level : Method → Level
  | .log l => l
  | .warn => .warning
  | .fatal => .critical
  | .exception => .error

def ofName? (t : Text) : Option Method := all.find? fun m => t == m.name

end Method

/-! ## Mistakes -/

/-- What can be wrong with a call. -/
inductive CallError where
  | takenName (function : String) (name : Text)
  | noMethod (owner : String) (name : Text)
  | loggerName
  | unknownRank (v : Value)
  | rankNotWhole
  | noTemplate (function : String)
  | notRecord (v : Value)
  | noLength (v : Value)
  | noFirst
  | noEvent
  | notTemplate (event : Value) (arguments : String)
  | template (m : Template.Mistake)
  | secret (f : ForeignSecret)

namespace CallError

def label : CallError → String
  | .takenName _ _ | .loggerName | .rankNotWhole | .noTemplate _ | .noLength _ | .notTemplate _ _
  | .secret _ => "TypeError"
  | .noMethod _ _ | .notRecord _ => "AttributeError"
  | .unknownRank (.list _) | .unknownRank (.object _) => "TypeError"
  | .unknownRank _ | .noFirst | .noEvent => "KeyError"
  | .template m => m.label

def message : CallError → Text
  | .takenName function name =>
    function ++ "() got multiple values for argument '" ++ name ++ "'"
  | .noMethod owner name => "'" ++ owner ++ "' object has no attribute '" ++ name ++ "'"
  | .loggerName => "A logger name must be a string"
  | .unknownRank (.list vs) => (Misuse.notHashable (.list vs)).message
  | .unknownRank (.object fields) => (Misuse.notHashable (.object fields)).message
  | .unknownRank v => v.repr
  | .rankNotWhole => "level must be an integer"
  | .noTemplate function => function ++ "() missing 1 required positional argument: 'msg'"
  | .notRecord v => "'" ++ v.kindName ++ "' object has no attribute 'name'"
  | .noLength v => "object of type '" ++ v.kindName ++ "' has no len()"
  | .noFirst => "0"
  | .noEvent => "'event'"
  | .notTemplate event arguments =>
    "unsupported operand type(s) for %: '" ++ event.kindName ++ "' and '" ++ arguments ++ "'"
  | .template m => m.message
  | .secret f => f.message

end CallError

/-- The name of a logger; anything that does not count as present names the root. -/
def readLogger (v : Value) : Except CallError Text :=
  match v with
  | .text t => .ok t
  | _ => if v.truthy then .error .loggerName else .ok []

/-! ## Arguments -/

/-- What an event is filled in from: the arguments of the call, or one value that came as a field. -/
inductive Filling where
  | arguments (vs : List Value)
  | value (v : Value)

namespace Filling

def kindName : Filling → String
  | .arguments _ => "tuple"
  | .value v => v.kindName

/-- The arguments of a template; a list with one object that is not empty stands for the object. -/
def toArguments : Filling → Template.Arguments
  | .arguments vs => .ofList vs
  | .value v => .ofValue v

/-- The filling in a field. What does not count as present fills nothing in. Only its first item is
looked at where there is one, and an object with one field has no first item. -/
def ofField (v : Value) : Except CallError (Option Filling) :=
  if !v.truthy then .ok none
  else
    match v with
    | .list [.object (f :: fs)] => .ok (some (.value (.object (f :: fs))))
    | .object [_] => .error .noFirst
    | .list _ | .object _ | .text _ | .bytes _ => .ok (some (.value v))
    | _ => .error (.noLength v)

/-- The event filled in. -/
def fill (f : Filling) (event : Option Value) : Except CallError Value :=
  match event with
  | none => .error .noEvent
  | some (.text template) =>
    ((Template.fillWith template f.toArguments).mapError .template).map .text
  | some v => .error (.notTemplate v f.kindName)

end Filling

/-! ## Calls -/

/-- A call of a logger, to which fields may have been bound before. -/
structure Call where
  logger : Value
  method : Text
  event : Value
  arguments : List Value
  bound : Fields
  fields : Fields

namespace Call

/-- The field that arguments come in. -/
def argumentsField : Text := "positional_args"

/-- The method that takes a rank. -/
def ranked : Text := "log"

/-- The parameters of every method, whose names no field can have. -/
def parameters : List Text := ["self", "event"]

/-- Fails where a field has a name that a function has for something else. -/
def checkNames (c : Call) (function : String) (taken : List Text) : Except CallError Unit :=
  match c.fields.find? fun f => taken.contains f.1 with
  | some (name, _) => .error (.takenName ("BoundLogger." ++ function) name)
  | none => .ok ()

/-- A call that gives a rank in the place of the event, and the event behind it or as a field: the
level of the rank, and the call without it. -/
def ofRank (c : Call) : Except CallError (Level × Call) := do
  c.checkNames "log" (if c.arguments.isEmpty then ["self", "level"] else ["self", "level", "event"])
  match Level.all.find? fun l => c.event.whole? = some (l.rank : Int) with
  | none => throw (.unknownRank c.event)
  | some l =>
    let event := c.arguments.head?.or (Fields.get? c.fields "event")
    pure (l, { c with
      event := event.getD .null
      arguments := c.arguments.drop 1
      fields := Value.dropField c.fields "event" })

/-- The level of a call, and the call as it is carried out. Its method has to exist and to leave the
names of the fields alone. -/
def check (c : Call) : Except CallError (Level × Call) := do
  let (level, c) ←
    match Method.ofName? c.method with
    | some m => do
      c.checkNames m.function parameters
      pure (m.level, c)
    | none => if c.method = ranked then c.ofRank else throw (.noMethod "BoundLogger" c.method)
  c.checkNames "_proxy_to_logger" ["method_name"]
  pure (level, c)

/-- The fields that are given: of the call over those of its logger over those of the journal. An
event that is null is none. -/
def given (c : Call) (context : Fields) : Fields :=
  let event : Fields :=
    match c.event with
    | .null => []
    | v => [("event", v)]
  Value.setFields (Value.setFields context (Value.setFields c.bound c.fields)) event

/-- What the event is filled in from, and the fields without it. Null is no filling, and stays. -/
def splitFilling (c : Call) (fields : Fields) : Except CallError (Option Filling × Fields) :=
  let others := Value.dropField fields argumentsField
  if !c.arguments.isEmpty then .ok (some (.arguments c.arguments), others)
  else
    match Fields.get? fields argumentsField with
    | none | some .null => .ok (none, fields)
    | some v => (Filling.ofField v).map fun f => (f, others)

/-- Fails where the record of another kind of entry is given. -/
def checkRecord (fields : Fields) : Except CallError Unit :=
  match Fields.get? fields "_record" with
  | none | some .null => .ok ()
  | some v => .error (.notRecord v)

/-- The fields with the event filled in, where there is something to fill it in from. -/
def fillEvent (filling : Option Filling) (fields : Fields) : Except CallError Fields :=
  match filling with
  | some f => (f.fill (Fields.get? fields "event")).map (Value.setField fields "event")
  | none => .ok fields

/-- The fields of the entry before masking. -/
def compose (c : Call) (context : Fields) (logger : Text) (level : Level) :
    Except CallError Fields := do
  let given := c.given context
  checkRecord given
  let (filling, fields) ← c.splitFilling given
  let named := Value.setFields fields
    [("level", .text level.name), ("logger", .text (Journal.loggerName logger))]
  let filled ← fillEvent filling named
  pure (Journal.dressed filled)

/-- The logger of a call, unless the fields that are bound to it have the name of what binds them. -/
def addressed (c : Call) : Except CallError Text :=
  if (Fields.get? c.bound "self").isSome then
    .error (.takenName "BoundLoggerLazyProxy.bind" "self")
  else readLogger c.logger

/-- The entry that a call brings: its logger, its level and its masked fields. -/
def entry (j : Journal) (c : Call) : Except CallError (Text × Level × Fields) := do
  let logger ← c.addressed
  let (level, c) ← c.check
  let fields ← c.compose j.context logger level
  let masked ← (maskWith j.secrets fields).mapError .secret
  pure (logger, level, masked)

/-- What a call adds to the journal. -/
def perform (j : Journal) (c : Call) : Except CallError (List Line) :=
  (c.entry j).map fun (logger, level, masked) => j.put logger level masked

/-- The loggers behind a call. Its logger is asked about the level only with an entry. -/
def loggersAfter (j : Journal) (c : Call) : Loggers :=
  match c.addressed with
  | .error _ => j.loggers
  | .ok logger =>
    match c.entry j with
    | .error _ => j.loggers.make logger
    | .ok (_, level, _) => (j.loggers.make logger).settle logger level.rank

end Call

/-- A call of a logger from elsewhere. -/
structure PlainCall where
  logger : Value
  method : Text
  event : Value
  arguments : List Value

namespace PlainCall

/-- What stands behind an event that is reported as an exception where there is none. -/
def noException : Text := "NoneType: None"

/-- The rank of a call, its event and its arguments. A call may give the rank in the place of the event,
and the event behind it. -/
def read (c : PlainCall) (logger : Text) : Except CallError (Int × Value × List Value) :=
  match Method.ofName? c.method with
  | some m => .ok (m.level.rank, c.event, c.arguments)
  | none =>
    if c.method = Call.ranked then
      match c.arguments, c.event with
      | [], _ => .error (.noTemplate "Logger.log")
      | event :: arguments, .int rank => .ok (rank, event, arguments)
      | event :: arguments, .bool b => .ok (if b then 1 else 0, event, arguments)
      | _, _ => .error .rankNotWhole
    else
      .error (.noMethod (if Journal.loggerName logger = "root" then "RootLogger" else "Logger")
        c.method)

/-- What a call from elsewhere adds. -/
def perform (j : Journal) (c : PlainCall) : Except CallError (List Line) := do
  let logger ← readLogger c.logger
  let (rank, event, arguments) ← c.read logger
  let lines := j.writePlain logger rank event.render arguments
  pure (if Method.ofName? c.method = some .exception ∧ !lines.isEmpty
    then lines ++ [.text noException] else lines)

/-- The loggers behind a call from elsewhere. -/
def loggersAfter (ls : Loggers) (c : PlainCall) : Loggers :=
  match readLogger c.logger with
  | .error _ => ls
  | .ok logger =>
    match c.read logger with
    | .error _ => ls.make logger
    | .ok (rank, _) => (ls.make logger).settle logger rank

end PlainCall

end Storefront.Log
