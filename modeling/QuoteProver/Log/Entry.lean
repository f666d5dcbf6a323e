/-!
# Log entries

An `Entry` is one line of the log: how serious it is, which part of the program it comes from and
what it says.  A `Threshold` names the least serious level that is shown.
-/

namespace QuoteProver.Log

/-- How serious an entry is. -/
inductive Level where
  | error
  | warn
  | info
  | debug
  | trace
  deriving Repr, DecidableEq

namespace Level

/-- The place of a level, the most serious one first. -/
def rank : Level → Nat
  | error => 1
  | warn => 2
  | info => 3
  | debug => 4
  | trace => 5

/-- The spelling of a level in log lines. -/
def label : Level → String
  | error => "ERROR"
  | warn => "WARN"
  | info => "INFO"
  | debug => "DEBUG"
  | trace => "TRACE"

end Level

/-- A line of the log. -/
structure Entry where
  level : Level
  /-- The part of the program that the entry comes from. -/
  source : String
  message : String
  /-- The stage of the work that failed, where the entry reports a failure of one. -/
  stage : Option String := none
  deriving Repr, DecidableEq

/-- The least serious level that is shown, or that none is. -/
inductive Threshold where
  | off
  | atLeast (level : Level)
  deriving Repr, DecidableEq

namespace Threshold

/-- All thresholds, the narrowest one first. -/
def all : List Threshold :=
  [off, atLeast .error, atLeast .warn, atLeast .info, atLeast .debug, atLeast .trace]

/-- The spelling of a threshold. -/
def name : Threshold → String
  | off => "off"
  | atLeast .error => "error"
  | atLeast .warn => "warn"
  | atLeast .info => "info"
  | atLeast .debug => "debug"
  | atLeast .trace => "trace"

/-- The place of the last level that is shown. -/
def rank : Threshold → Nat
  | off => 0
  | atLeast level => level.rank

/-- The threshold with a given spelling. -/
def ofName? (text : String) : Option Threshold :=
  all.find? fun threshold => threshold.name = text

/-- Whether entries of a level are shown. -/
def admits (threshold : Threshold) (level : Level) : Bool := level.rank ≤ threshold.rank

end Threshold

end QuoteProver.Log
