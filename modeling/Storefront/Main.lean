import Storefront.Json.Writer
import Storefront.Seeding.Run

/-!
# The seeding command

The command line of `Seeding.run`. The index is reached through the standard streams: what it answers
is read first, one JSON value on each line, and every call is written as one JSON object on a line of
its own. Variables of the environment are looked up under the names of the settings, in capitals and
in small letters.
-/

namespace Storefront.Command

open Seeding (Run)

/-- The variables that may hold settings, and their values. -/
def environment : IO Settings.Environment := do
  let names := Settings.fieldNames.flatMap fun name => [name, name.map Char.toUpper]
  let found ← names.mapM fun name => do
    let value ← IO.getEnv name
    pure (value.map fun v => ((name : Text), (v : Text)))
  pure (found.filterMap id)

/-- The lines of a stream up to its end. -/
partial def readLines (input : IO.FS.Stream) (read : List String) : IO (List String) := do
  let line ← input.getLine
  if line.isEmpty then pure read.reverse else readLines input (line :: read)

/-- The reply that a line stands for; what is no JSON is an answer that cannot be read. -/
def replyOf (line : String) : Index.Reply :=
  match Json.read line with
  | .ok v => .value v
  | .error _ => .fault (.ofDefect Json.Problem.expectingValue.message line 0)

/-- What the index answers: to the removal first, if there is one, and then to each batch. -/
def repliesOf (resets : Bool) (replies : List Index.Reply) : Seeding.Replies :=
  if resets then ⟨.sequence (replies.take 1), .sequence (replies.drop 1)⟩
  else ⟨.sequence [], .sequence replies⟩

/-- A call as a JSON object. -/
def callValue (c : Index.Call) : Value :=
  let records : List Value :=
    match c with
    | .upsert rs =>
      rs.map fun r => .object [("id", r.id), ("vector", r.vector), ("metadata", r.metadata)]
    | _ => []
  .object [("method", .text c.name), ("vectors", .list records)]

/-- A record for people to read. -/
def recordLine (r : Log.Record) : Text :=
  let shown : Fields → Text := fun fields => fields.flatMap fun f =>
    let pair : Text := f.1 ++ "=" ++ f.2.render
    "  " ++ pair
  r.event ++ shown r.fields

/-- What is said about a failure, and the status of the command. -/
def describe : Seeding.Failure → Text × UInt32
  | .exit .help => ("", 0)
  | .exit .misuse => (String.intercalate "\n" (Seeding.Options.helpLines.take 1), 2)
  | .settings (.invalid issues) => (Text.join "; " (issues.map fun i => i.describe "settings"), 1)
  | .settings e => (e.message, 1)
  | .connection e => (e.message, 1)
  | .index e => (e.message, 1)
  | .batches e => (e.message, 1)

/-- Whether the arguments lead to calls, and whether the first of them is a removal. -/
def plan (arguments : List Text) : Bool × Bool :=
  match Seeding.Options.parse arguments with
  | .ok o => (!o.dryRun, o.reset)
  | .error _ => (false, false)

/-- Carries a run out and returns its status. -/
def execute (arguments : List Text) : IO UInt32 := do
  let (calls, resets) := plan arguments
  let lines ← if calls then readLines (← IO.getStdin) [] else pure []
  let done := Seeding.run arguments (← environment) (repliesOf resets (lines.map replyOf))
  for r in done.records do IO.eprintln (recordLine r).toString
  for line in done.printed do IO.println line.toString
  for c in done.calls do IO.println (Json.write (callValue c))
  match done.result with
  | .ok _ => pure 0
  | .error e =>
    let (message, status) := describe e
    if !message.isEmpty then IO.eprintln message.toString
    pure status

end Storefront.Command

def main (arguments : List String) : IO UInt32 := Storefront.Command.execute (arguments.map Storefront.Text.ofString)
