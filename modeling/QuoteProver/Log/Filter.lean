import QuoteProver.Log.Entry
import QuoteProver.Text.Blank
import QuoteProver.Text.Decimal

/-!
# Log filters

A `Filter` is a list of directives separated by commas.  A directive sets the threshold of the
entries from a part of the program; of those that speak of an entry the one that names its source
most closely counts.
-/

namespace QuoteProver.Log

/-- The text of the filter for a threshold: it holds for the program `program` and the library,
and warnings are shown of everything else. -/
def defaultFilter (program : String) (threshold : Threshold) : String :=
  match threshold with
  | .off => "off"
  | threshold =>
    "warn," ++ program ++ "=" ++ threshold.name ++ ",zkdcap=" ++ threshold.name

/-- The threshold of some of the entries. -/
structure Directive where
  /-- How the sources of the entries begin; every source does if it is missing. -/
  source : Option String
  /-- Whether only entries inside a named span are meant, of which the program opens none. -/
  inSpan : Bool := false
  threshold : Threshold
  deriving Repr, DecidableEq

namespace Directive

/-- The threshold that a text names by its name in letters of either case or by its place. -/
def threshold? (text : List Char) : Option Threshold :=
  match Text.natural? text with
  | some n => Threshold.all[n]?
  | none => Threshold.ofName? (String.ofList (text.map Char.toLower))

/-- The threshold behind an equality sign; the most detailed one if there is no text. -/
def thresholdBehind : List Char → Option Threshold
  | [] => some (.atLeast .trace)
  | '=' :: [] => some (.atLeast .trace)
  | '=' :: text => threshold? text
  | _ => none

/-- Whether a directive may begin with a character. -/
def isStart (c : Char) : Bool := c.isAlphanum || c = '-' || c = ':' || c = '_' || c = '['

/-- Reads a directive: a threshold, a source, or a source with its threshold. -/
def ofText? (text : List Char) : Option Directive :=
  let text := Text.trim text
  let name := text.takeWhile fun c => c ≠ '=' && c ≠ '['
  let source := if name.isEmpty then none else some (String.ofList name)
  if text.head?.any isStart then
    match text.dropWhile fun c => c ≠ '=' && c ≠ '[' with
    | [] => match threshold? name with
      | some threshold => some { source := none, threshold }
      | none => some { source, threshold := .atLeast .trace }
    | '[' :: rest => match rest.dropWhile (· ≠ ']') with
      | ']' :: rest => do return { source, inSpan := true, threshold := ← thresholdBehind rest }
      | _ => none
    | rest => do return { source, threshold := ← thresholdBehind rest }
  else none

/-- Whether a directive speaks of entries from a source. -/
def speaksOf (d : Directive) (source : String) : Bool :=
  !d.inSpan && match d.source with
    | some start => start.toList.isPrefixOf source.toList
    | none => true

/-- How closely a directive names sources. -/
def closeness (d : Directive) : Nat :=
  match d.source with
  | some start => start.length + 1
  | none => 0

end Directive

/-- The directives that decide what is shown. -/
abbrev Filter := List Directive

namespace Filter

/-- The parts of a text between commas that are not empty. -/
def parts (text : List Char) : List (List Char) :=
  (text.splitOn ',').filter (!·.isEmpty)

/-- Reads a filter; one without directives shows errors. -/
def ofText? (text : String) : Option Filter := do
  match ← (parts text.toList).mapM Directive.ofText? with
  | [] => some [{ source := none, threshold := .atLeast .error }]
  | directives => some directives

/-- The closer one of two directives; of two that are equally close the later one. -/
def closer : Option Directive → Directive → Option Directive
  | some d, e => if e.closeness < d.closeness then some d else some e
  | none, e => some e

/-- Whether an entry is shown: the directive closest to its source decides. -/
def admits (filter : Filter) (entry : Entry) : Bool :=
  match (filter.filter (·.speaksOf entry.source)).foldl closer none with
  | some d => d.threshold.admits entry.level
  | none => false

/-- The filter in force: the one that the environment spells, if it spells one, and otherwise the
default one. -/
def inForce (spelt : Option String) (program : String) (threshold : Threshold) : Filter :=
  (spelt.bind ofText?).getD ((ofText? (defaultFilter program threshold)).getD [])

end Filter

end QuoteProver.Log
