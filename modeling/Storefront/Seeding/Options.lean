import Storefront.Number.Loose
import Storefront.Value.Basic

/-!
# Options of the seeding command

The command has three options. A long option may be shortened to any beginning of its name; a value
follows behind an equals sign or as the next argument. Whatever is not an option is refused, but only
after all options were read, so a request for help in front of it or behind it is still answered.

* `Seeding.Options.parse`: the options of an argument list, or why the command ends.
-/

namespace Storefront.Seeding

/-- What the command was asked to do. There is no batch size where only the mark in front of operands
was given for it. -/
structure Options where
  dryRun : Bool
  reset : Bool
  batchSize : Option Int
deriving DecidableEq

/-- Why the command ends before it begins. -/
inductive Exit where
  | help
  | misuse
deriving DecidableEq

/-- The status with which the command ends. -/
def Exit.status : Exit → Nat
  | .help => 0
  | .misuse => 2

namespace Options

/-- How many records are stored at once unless it is said otherwise. -/
def defaultBatchSize : Int := 100

def initial : Options := ⟨false, false, some defaultBatchSize⟩

/-- The lines that answer a request for help. -/
def helpLines : List String :=
  ["usage: seed_products.py [-h] [--dry-run] [--reset] [--batch-size BATCH_SIZE]",
   "",
   "Seed the vector index with demo products",
   "",
   "options:",
   "  -h, --help            show this help message and exit",
   "  --dry-run             Build records without writing them",
   "  --reset               Delete all vectors before seeding",
   "  --batch-size BATCH_SIZE",
   "                        Records per upsert request"]

/-! ## Arguments -/

inductive Switch where
  | help
  | dryRun
  | reset
  | batchSize
deriving DecidableEq

/-- The long names of the options. -/
def names : List (String × Switch) :=
  [("--help", .help), ("--dry-run", .dryRun), ("--reset", .reset), ("--batch-size", .batchSize)]

/-- What an argument is taken for. -/
inductive Argument where
  | option (o : Switch) (value : Option (List Char))
  | helpLetters (rest : List Char)
  | unknownOption
  | ambiguous
  | operand

/-- Whether an argument looks like a negative number; a line break at its end does not count. -/
def isNegativeNumber (cs : List Char) : Bool :=
  match cs with
  | '-' :: rest =>
    let body := if rest.getLast? = some '\n' then rest.dropLast else rest
    let isDigit (c : Char) : Bool := (Text.digitValue? c).isSome
    let behind := body.dropWhile isDigit
    match behind with
    | [] => !body.isEmpty
    | '.' :: fraction => !fraction.isEmpty && fraction.all isDigit
    | _ => false
  | _ => false

/-- The name of an argument, and the value behind its first equals sign if there is one. -/
def splitValue (cs : List Char) : List Char × Option (List Char) :=
  match cs.dropWhile (· != '=') with
  | _ :: value => (cs.takeWhile (· != '='), some value)
  | [] => (cs, none)

/-- What an argument in front of a bare `--` is taken for. -/
def classify (cs : List Char) : Argument :=
  let (name, value) := splitValue cs
  let found := names.filter fun n => name.isPrefixOf n.1.toList
  match cs with
  | '-' :: '-' :: _ =>
    match found with
    | [(_, o)] => .option o value
    | _ :: _ :: _ => .ambiguous
    | [] => if cs.contains ' ' then .operand else .unknownOption
  | '-' :: 'h' :: rest => .helpLetters rest
  | '-' :: _ :: _ => if isNegativeNumber cs || cs.contains ' ' then .operand else .unknownOption
  | _ => .operand

/-- Letters behind the short option for help, perhaps with an equals sign in front: only repetitions
of it may follow. -/
def exitForLetters (rest : List Char) : Exit :=
  let letters := match rest with
    | '=' :: c :: more => c :: more
    | _ => rest
  if letters.all (· == 'h') then .help else .misuse

/-- The integer that a text stands for. -/
def readInteger? (cs : List Char) : Option Int :=
  let digits (cs : List Char) : Option Nat :=
    match Text.joinDigitGroups? false cs with
    | some ds =>
      if ds.isEmpty ∨ !ds.all Char.isDigit ∨ Value.maxDigits < ds.length then none
      else some (ds.foldl (fun n d => n * 10 + (d.toNat - '0'.toNat)) 0)
    | none => none
  match Text.looseChars? (Text.ofChars cs) with
  | some ('-' :: rest) => (digits rest).map fun n => -(n : Int)
  | some ('+' :: rest) => (digits rest).map fun n => (n : Int)
  | some rest => (digits rest).map fun n => (n : Int)
  | none => none

/-- Reads the arguments from left to right. `refused` tells whether one of them was no option. -/
def walk (o : Options) (refused : Bool) : List (List Char) → Except Exit Options
  | [] => if refused then .error .misuse else .ok o
  | cs :: rest =>
    if cs = ['-', '-'] then .error .misuse
    else
      match classify cs with
      | .ambiguous => .error .misuse
      | .operand | .unknownOption => walk o true rest
      | .helpLetters letters => .error (exitForLetters letters)
      | .option .help none => .error .help
      | .option .dryRun none => walk { o with dryRun := true } refused rest
      | .option .reset none => walk { o with reset := true } refused rest
      | .option .help (some _) | .option .dryRun (some _) | .option .reset (some _) =>
        .error .misuse
      | .option .batchSize (some value) =>
        if value = ['-', '-'] then walk { o with batchSize := none } refused rest
        else
          match readInteger? value with
          | some n => walk { o with batchSize := some n } refused rest
          | none => .error .misuse
      | .option .batchSize none =>
        match rest with
        | value :: rest' =>
          match classify value, readInteger? value with
          | .operand, some n => walk { o with batchSize := some n } refused rest'
          | _, _ => .error .misuse
        | [] => .error .misuse

/-- The options of an argument list. Shortened names have to be clear before anything is read. -/
def parse (arguments : List Text) : Except Exit Options :=
  let texts := arguments.map fun t => t.map CodePoint.toChar
  let ambiguous := (texts.takeWhile (· != ['-', '-'])).any fun cs =>
    match classify cs with
    | .ambiguous => true
    | _ => false
  if ambiguous then .error .misuse else walk .initial false texts

end Options

end Storefront.Seeding
