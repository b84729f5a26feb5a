import Storefront.Log.Level

/-!
# Loggers

A logger is made when it is first asked for by its name, and stands below others by the dots of the name.
The loggers that it stands below are those that there are: where nobody asked for one of them, the next
one takes its place. A logger settles once for each rank which loggers these are, and keeps to that until
the thresholds are set anew.

* `Loggers.make`, `Loggers.settle`, `Loggers.renew`: what happens to loggers.
* `Loggers.seenBy`: the loggers that there were when a logger settled.
* `lineage`: a logger and those that it stands below.
* `lowestRank`: the lowest rank that a logger may write at.

Some loggers are quiet: they and the loggers below them write nothing below warnings.
-/

namespace Storefront.Log

/-- The loggers that write nothing below warnings. -/
def quietLoggers : List Text := ["httpx", "httpcore", "uvicorn.access"]

/-- The names of the loggers that there are. For a logger and a rank that it has settled about, the
loggers that there were at that time. -/
structure Loggers where
  made : List Text
  settled : List ((Text × Int) × List Text)

namespace Loggers

def initial : Loggers := ⟨[], []⟩

/-- Makes a logger, unless there is one of this name. -/
def make (ls : Loggers) (logger : Text) : Loggers := { ls with made := ls.made.insert logger }

/-- The loggers that a logger goes by at a rank. -/
def seenBy (ls : Loggers) (logger : Text) (rank : Int) : List Text :=
  (ls.settled.lookup (logger, rank)).getD ls.made

/-- A logger is asked whether it writes at a rank. -/
def settle (ls : Loggers) (logger : Text) (rank : Int) : Loggers :=
  { ls with settled := ((logger, rank), ls.seenBy logger rank) :: ls.settled }

/-- Thresholds are set anew, for which the quiet loggers are made. -/
def renew (ls : Loggers) : Loggers := ⟨quietLoggers.foldr List.insert ls.made, []⟩

end Loggers

/-- The loggers in front of the dots of a name, which is written backwards from its end on. A dot does not
count at the beginning of the name, nor directly in front of one that counts but has no logger in front
of it; `counts` tells whether one would count here. -/
def above (made : List Text) (counts : Bool) : Text → List Text
  | [] => []
  | p :: rest =>
    if counts ∧ p = '.' then
      if rest.isEmpty then []
      else if rest.reverse ∈ made then rest.reverse :: above made true rest
      else above made false rest
    else above made true rest

/-- A logger and those that it stands below, the nearest first. -/
def lineage (made : List Text) (logger : Text) : List Text :=
  logger :: above made true logger.reverse

/-- Whether a logger is quiet or stands below a quiet one. -/
def isQuiet (made : List Text) (logger : Text) : Bool :=
  (lineage made logger).any quietLoggers.contains

/-- The threshold that a logger has of its own. -/
def ownThreshold? (logger : Text) : Option Nat :=
  if logger ∈ quietLoggers then some Level.warning.rank else none

/-- The lowest rank that a logger may write at: its own threshold, or that of the nearest logger above it
that has one, and `threshold` where there is none. -/
def lowestRank (made : List Text) (threshold : Nat) (logger : Text) : Nat :=
  ((lineage made logger).findSome? ownThreshold?).getD threshold

/-- Quiet loggers all have the same threshold. -/
theorem lowestRank_eq (made : List Text) (threshold : Nat) (logger : Text) :
    lowestRank made threshold logger =
      if isQuiet made logger then Level.warning.rank else threshold := by
  rw [lowestRank, isQuiet]
  induction lineage made logger with
  | nil => rfl
  | cons name names ih =>
    rw [List.findSome?_cons, List.any_cons, ownThreshold?]
    by_cases hName : name ∈ quietLoggers
    · simp [hName]
    · simpa [hName] using ih

end Storefront.Log
