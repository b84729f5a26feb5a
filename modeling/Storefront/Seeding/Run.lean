import Storefront.Catalog
import Storefront.Index.Client
import Storefront.Log.Journal
import Storefront.Seeding.Options

/-!
# Seeding the index

A run builds the catalog and stores it in batches, perhaps after everything that was stored before is
removed. A dry run only prints the first records.

* `Seeding.Run`: what a run printed, reported and sent, and how it ended.
* `Seeding.run`: a run for an argument list, an environment, and what the index answers.
-/

namespace Storefront.Seeding

open Index (BackendError Call ClientError Connection Script)

/-- How a run fails. -/
inductive Failure where
  | exit (e : Exit)
  | settings (e : SettingsError)
  | connection (e : BackendError)
  | index (e : ClientError)
  | batches (e : Catalog.BatchError)

/-- What a run did so far, with its outcome. -/
structure Run (α : Type) where
  printed : List Text
  records : List Log.Record
  calls : List Call
  result : Except Failure α

namespace Run

/-- A run goes on behind what it did before, unless that has failed. -/
def andThen {α β : Type} (r : Run α) (next : α → Run β) : Run β :=
  match r.result with
  | .error e => ⟨r.printed, r.records, r.calls, .error e⟩
  | .ok a =>
    let more := next a
    ⟨r.printed ++ more.printed, r.records ++ more.records, r.calls ++ more.calls, more.result⟩

instance : Monad Run where
  pure a := ⟨[], [], [], .ok a⟩
  bind := andThen

/-- Prints lines. -/
def print (lines : List Text) : Run Unit := ⟨lines, [], [], .ok ()⟩

/-- Reports an event of the run. -/
def report (event : Text) (fields : Fields) : Run Unit :=
  ⟨[], [⟨"seed_products", .info, event, fields⟩], [], .ok ()⟩

/-- Takes an outcome over, with a failure of its own kind. -/
def ofExcept {ε α : Type} (wrap : ε → Failure) (result : Except ε α) : Run α :=
  ⟨[], [], [], result.mapError wrap⟩

/-- Sends a call to the index. -/
def send (c : Call) (reply : Index.Reply) : Run Unit :=
  let sent := Index.Client.call c reply
  ⟨[], [], sent.calls, match sent.result with
    | .ok _ => .ok ()
    | .error e => .error (.index e)⟩

end Run

/-! ## The catalog -/

/-- The records of the catalog for a list of prices. -/
def catalog (prices : List Price) : List VectorRecord :=
  (Catalog.products prices).map Product.toRecord

/-- A text with blanks behind it up to a width. -/
def padRight (width : Nat) (t : Text) : Text :=
  t ++ List.replicate (width - t.length) (.char ' ')

/-- How a dry run shows a record. -/
def preview (r : VectorRecord) : Text :=
  "  " ++ padRight 16 r.id.render ++ " vector=" ++ r.vector.render

/-- What a dry run prints about records. -/
def previewLines (records : List VectorRecord) : List Text :=
  let total : Text :=
    "  ... " ++ toString records.length ++ " records total (dry run, nothing written)"
  (records.take 5).map preview ++ [total]

/-! ## The run -/

/-- Stores batches one after the other; the first failure ends the run. -/
def store (script : Script) (position : Nat) : List (List VectorRecord) → Run Unit
  | [] => pure ()
  | batch :: rest => do
    let (reply, script) := script.next
    Run.send (.upsert batch) reply
    Run.report "Upserted batch" [("batch", .int position), ("size", .int batch.length)]
    store script (position + 1) rest

/-- Removes what is stored. -/
def clear (script : Script) : Run Unit := do
  Run.send .reset script.next.1
  Run.report "Cleared vector index" []

/-- What the index answers to a run. -/
structure Replies where
  reset : Script
  upsert : Script

/-- The batch size that was asked for; an empty list stands for none. -/
def batchSize (o : Options) : Except Catalog.BatchError Nat :=
  Catalog.readBatchSize ((o.batchSize.map Value.int).getD (.list []))

/-- Writes records to the index in batches. The batch size is looked at when the first batch is due. -/
def writeBatches (o : Options) (script : Script) (records : List VectorRecord) : Run Unit := do
  let size ← Run.ofExcept .batches (batchSize o)
  store script 0 (Catalog.batches size records)
  Run.report "Seeding complete" [("count", .int records.length)]

/-- Writes records to the index, which is cleared before that if this was asked for. -/
def writeRecords (o : Options) (replies : Replies) (records : List VectorRecord) : Run Unit := do
  if o.reset then clear replies.reset
  writeBatches o replies.upsert records

/-- A run for a list of prices, with options that were read. -/
def runWith (prices : List Price) (o : Options) (environment : Settings.Environment)
    (replies : Replies) : Run Unit := do
  let records := catalog prices
  let settings ← Run.ofExcept .settings (Settings.fromEnvironment environment)
  Run.report "Built catalog records" [("count", .int records.length)]
  if o.dryRun then Run.print (previewLines records)
  else
    let _ ← Run.ofExcept .connection (Connection.make "" "" settings)
    writeRecords o replies records

/-- A run of the command, which stores the default catalog. A request for help is answered with the
usage. -/
def run (arguments : List Text) (environment : Settings.Environment) (replies : Replies) :
    Run Unit :=
  match Options.parse arguments with
  | .ok o => runWith Catalog.defaultPrices o environment replies
  | .error .help => ⟨Options.helpLines.map Text.ofString, [], [], .error (.exit .help)⟩
  | .error .misuse => ⟨[], [], [], .error (.exit .misuse)⟩

end Storefront.Seeding
