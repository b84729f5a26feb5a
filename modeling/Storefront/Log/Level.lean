import Storefront.Text.Case
import Storefront.Value.Basic

/-!
# Log levels

The level of an entry is one of five. A threshold is a number between them, and it is named by
words of which some mean the same.
-/

namespace Storefront.Log

/-- How serious an entry is. -/
inductive Level where
  | debug
  | info
  | warning
  | error
  | critical
deriving DecidableEq

namespace Level

def all : List Level := [.debug, .info, .warning, .error, .critical]

def name : Level → String
  | .debug => "debug"
  | .info => "info"
  | .warning => "warning"
  | .error => "error"
  | .critical => "critical"

/-- The number of a level; a threshold admits the levels whose numbers it does not exceed. -/
def rank : Level → Nat
  | .debug => 10
  | .info => 20
  | .warning => 30
  | .error => 40
  | .critical => 50

end Level

/-- The numbers that thresholds are named by. -/
def thresholds : List (String × Nat) :=
  [("CRITICAL", 50), ("FATAL", 50), ("ERROR", 40), ("WARNING", 30), ("WARN", 30), ("INFO", 20),
   ("DEBUG", 10), ("NOTSET", 0)]

/-- Why a value names no threshold: it is no text, or another word. Two words are known otherwise,
as the names of a line format and of a table of line formats. -/
inductive ThresholdError where
  | notText (v : Value)
  | unknown (word : Text)
  | lineFormat
  | lineFormats

namespace ThresholdError

def label : ThresholdError → String
  | .notText (.bytes _) | .lineFormats => "TypeError"
  | .notText _ | .unknown _ => "AttributeError"
  | .lineFormat => "ValueError"

def message : ThresholdError → Text
  | .notText (.bytes _) => "attribute name must be string, not 'bytes'"
  | .notText v => "'" ++ v.kindName ++ "' object has no attribute 'upper'"
  | .unknown word => "module 'logging' has no attribute '" ++ word ++ "'"
  | .lineFormat => "Unknown level: '%(levelname)s:%(name)s:%(message)s'"
  | .lineFormats =>
    "Level not an integer or a valid string: \x7b"
      ++ "'%': (<class 'logging.PercentStyle'>, '%(levelname)s:%(name)s:%(message)s'), "
      ++ "'\x7b': (<class 'logging.StrFormatStyle'>, "
      ++ "'\x7blevelname\x7d:\x7bname\x7d:\x7bmessage\x7d'), "
      ++ "'$': (<class 'logging.StringTemplateStyle'>, "
      ++ "'$\x7blevelname\x7d:$\x7bname\x7d:$\x7bmessage\x7d')\x7d"

/-- Whether the value was understood at least as the name of something else. -/
def isOtherName : ThresholdError → Bool
  | .lineFormat | .lineFormats => true
  | .notText _ | .unknown _ => false

end ThresholdError

/-- The threshold that a word names, in any case of letters. -/
def threshold (v : Value) : Except ThresholdError Nat :=
  match v with
  | .text word =>
    match thresholds.find? fun t => word.upper == t.1 with
    | some (_, n) => .ok n
    | none =>
      .error (if word.upper = "BASIC_FORMAT" then .lineFormat
        else if word.upper = "_STYLES" then .lineFormats
        else .unknown word.upper)
  | _ => .error (.notText v)

end Storefront.Log
