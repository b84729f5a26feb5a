import Storefront.Value.Access

/-!
# Masking secrets

Faults of the index may repeat what was sent to it, the token included. Known secrets are therefore
replaced in every text of a log entry before the entry is written.

* `Secrets.read`: the secrets in a value of unknown shape.
* `Log.maskAny`: a value that should be an entry, masked.
* `Log.maskText`: a text with all secrets replaced, one secret after the other.
* `Log.maskFields`: an entry with its texts masked. Names of fields and texts inside of lists and
  objects stay as they are.
-/

namespace Storefront.Log

/-- What is not to be shown. A secret that is no text cannot be looked for; the first such value is
kept. -/
structure Secrets where
  texts : List Text
  stranger : Option Value

namespace Secrets

def ofTexts (ts : List Text) : Secrets := ⟨ts.filter (!·.isEmpty), none⟩

/-- The secrets in a list, or in whatever else has parts; empty ones do not count. -/
def read (v : Value) : Except Misuse Secrets := do
  let items ← v.items
  let present := items.filter Value.truthy
  pure ⟨present.filterMap Value.text?, present.find? fun s => s.text?.isNone⟩

/-- Whether there is nothing to hide. -/
def isEmpty (s : Secrets) : Bool := s.texts.isEmpty && s.stranger.isNone

end Secrets

/-- What stands in the place of a secret. -/
def mask : Text := "***"

/-- A text with the occurrences of `secret` replaced, from left to right and without overlap. The
first `skip` characters belong to an occurrence that was replaced already. -/
def replaceFrom (secret : Text) : Nat → Text → Text
  | _, [] => []
  | skip + 1, _ :: rest => replaceFrom secret skip rest
  | 0, p :: rest =>
    if secret.isPrefixOf (p :: rest) then mask ++ replaceFrom secret (secret.length - 1) rest
    else p :: replaceFrom secret 0 rest

/-- A text with the occurrences of one secret replaced; an empty secret occurs nowhere. -/
def replaceSecret (secret t : Text) : Text := if secret.isEmpty then t else replaceFrom secret 0 t

/-- A text with the secrets replaced, each in what the ones before it have left. -/
def maskText (secrets : List Text) (t : Text) : Text :=
  secrets.foldl (fun t secret => replaceSecret secret t) t

/-- A value of a field: only a text is masked. -/
def maskValue (secrets : List Text) : Value → Value
  | .text t => .text (maskText secrets t)
  | v => v

def maskFields (secrets : List Text) (fields : Fields) : Fields :=
  fields.map fun (k, v) => (k, maskValue secrets v)

/-- A secret that would be looked for in a text without being one. -/
structure ForeignSecret where
  secret : Value

def ForeignSecret.message (f : ForeignSecret) : Text :=
  "'in <string>' requires string as left operand, not " ++ f.secret.kindName

/-- An entry with its texts masked, unless there is a text in it and a secret that is none. -/
def maskWith (secrets : Secrets) (fields : Fields) : Except ForeignSecret Fields :=
  match secrets.stranger with
  | some v =>
    if fields.any fun f => f.2.text?.isSome then .error ⟨v⟩ else .ok fields
  | none => .ok (maskFields secrets.texts fields)

/-- Why a value cannot be masked. -/
inductive MaskFault where
  | secret (f : ForeignSecret)
  | misuse (m : Misuse)

namespace MaskFault

def label : MaskFault → String
  | .secret _ => "TypeError"
  | .misuse m => m.label

def message : MaskFault → Text
  | .secret f => f.message
  | .misuse m => m.message

end MaskFault

/-- A value that should be an entry, masked. Without secrets nobody looks at what it is. -/
def maskAny (secrets : Secrets) (v : Value) : Except MaskFault Value :=
  match v with
  | .object fields => ((maskWith secrets fields).mapError .secret).map .object
  | _ => if secrets.isEmpty then .ok v else .error (.misuse (.noMember v.kindName "items"))

end Storefront.Log
