import QuoteProver.Command.Arguments
import QuoteProver.Log.Filter
import QuoteProver.Prover.Client
import QuoteProver.Quote.File
import QuoteProver.Quote.Summary

/-!
# Runs of the program

`run` says what the program does with a command line in given `Surroundings`: what it prints, logs,
writes and sends.  A quote is proven only when everything that can be checked beforehand is in
order, and nothing is printed or written before the proof is there.
-/

namespace QuoteProver.Command

/-- The name of the program. -/
def program : String := "zkdcap-prove"

/-- The version that the program shows. -/
def version : String := "0.6.0"

/-- The part of the program that the log entries come from. -/
def source : String := "zkdcap_prove"

/-- What a run depends on besides its command line. -/
structure Surroundings where
  /-- The contents of files that can be read. -/
  contents : String → Option Bytes
  /-- The files that can be written. -/
  isWritable : String → Bool
  environment : Config.Environment
  /-- Whether a path leads to a file, be it one that can be read or not. -/
  isFile : String → Bool := fun path => (contents path).isSome
  /-- How configuration files are looked for and read. -/
  formats : Config.Formats := {}
  /-- The rules for international names in addresses. -/
  toAscii : Web.DomainToAscii := some
  /-- The time at the start in Unix seconds. -/
  time : UInt64 := 0
  /-- What happens while the program waits. -/
  moments : List (Prover.Moment Web.Answer) := []

/-! ## Failures -/

/-- Why a task fails. -/
inductive Failure where
  | unreadableQuote (path : String)
  | unreadable (path : String)
  /-- The collateral file holds no collateral. -/
  | collateral
  | config
  | unwritable (path : String)
  | quote (failure : Quote.Failure)
  | prover (failure : Prover.Failure)
  deriving Repr, DecidableEq

namespace Failure

/-- The wording of a failure. -/
def message : Failure → String
  | unreadableQuote path => s!"Failed to read quote {path}"
  | unreadable path => s!"Failed to read {path}"
  | collateral => "Failed to parse collateral"
  | config => "Failed to load config"
  | unwritable path => s!"Failed to write {path}"
  | quote failure => failure.message
  | prover failure => failure.message

/-- The stage of the work that a failure belongs to, if it is not one of the program's own. -/
def stage : Failure → Option String
  | quote _ => some "quote"
  | prover failure => some failure.stage
  | _ => none

end Failure

/-! ## Outcomes -/

/-- What comes of a run. -/
structure Outcome where
  /-- The exit code; there is none while the program waits. -/
  exit : Option Nat
  output : String := ""
  failure : Option Failure := none
  /-- Why there is no work to do. -/
  refusal : Option Refusal := none
  log : List Log.Entry := []
  /-- The file that is written, with its contents. -/
  written : Option (String × String) := none
  sent : List Web.Request := []

namespace Outcome

/-- The outcome of a task that fails. -/
def ofFailure (failure : Failure) (log : List Log.Entry) (sent : List Web.Request) : Outcome where
  exit := some 1
  failure := some failure
  log := log ++ [{ level := .error, source, message := failure.message, stage := failure.stage }]
  sent := sent

/-- The outcome of a command line that asks for no work. -/
def ofRefusal (refusal : Refusal) : Outcome :=
  match refusal with
  | .help => { exit := some 0, refusal := some refusal }
  | .version => { exit := some 0, output := program ++ " " ++ version ++ "\n", refusal := some refusal }
  | .fault _ => { exit := some 2, refusal := some refusal }

end Outcome

/-! ## Showing a quote -/

/-- Reads the quote of a file. -/
def readQuote (s : Surroundings) (path : String) : Except Failure Bytes :=
  match s.contents path with
  | some contents => .ok (Quote.ofFile contents)
  | none => .error (.unreadableQuote path)

/-- The summary of the quote of a file. -/
def summaryOf (s : Surroundings) (path : String) : Except Failure Json.Document := do
  let quote ← (Quote.parse (← readQuote s path)).mapError .quote
  quote.summary.mapError .quote

/-- Shows the quote of a file. -/
def parse (s : Surroundings) (path : String) : Outcome :=
  match summaryOf s path with
  | .ok summary => { exit := some 0, output := summary.pretty ++ "\n" }
  | .error failure => .ofFailure failure [] []

/-! ## Proving a quote -/

/-- Everything that a proof is made from. -/
structure Job where
  client : Prover.Client
  quote : Bytes
  collateral : Collateral

/-- Work that can fail and is logged. -/
abbrev Preparation := ExceptT Failure (StateM (List Log.Entry))

/-- Goes on with a value or fails. -/
def orFail {α : Type} : Except Failure α → Preparation α
  | .ok a => pure a
  | .error failure => throw failure

/-- Reads the collateral of a file. -/
def readCollateral (s : Surroundings) (path : String) : Except Failure Collateral :=
  match s.contents path with
  | some contents => match (Json.Node.parse contents).bind Collateral.ofNode with
    | some collateral => .ok collateral
    | none => .error .collateral
  | none => .error (.unreadable path)

/-- The configuration of an optional file with the environment over it. -/
def loadConfig (s : Surroundings) (path : Option String) : Option Config.Backends := do
  let entries ← match path with
    | some path => s.formats.entriesAt s.isFile s.contents path
    | none => some []
  Config.Backends.ofEntries entries s.environment

/-- Reads and checks everything that a proof is made from. -/
def prepare (s : Surroundings) (task : ProveTask) : Preparation Job := do
  let quote ← orFail (readQuote s task.quote)
  let _ ← orFail ((Quote.parse quote).mapError .quote)
  let collateral ← orFail (readCollateral s task.collateral)
  if task.config.isSome then
    modify (· ++ [{ level := .trace, source := "zkdcap::prover::config",
                    message := "loading config file" }])
  match loadConfig s task.config with
  | none => throw .config
  | some config =>
    let client ← orFail ((Prover.Client.ofConfig s.contents config s.toAscii).mapError .prover)
    return { client, quote, collateral }

/-- Writes a proof to the file that is named, or prints it. -/
def deliver (s : Surroundings) (output : Option String) (proof : Prover.Proof)
    (log : List Log.Entry) (sent : List Web.Request) : Outcome :=
  let log := log ++ [{ level := .info, source, message := "proof generated" }]
  match output with
  | none => { exit := some 0, output := proof.document.pretty ++ "\n", log, sent }
  | some path =>
    if s.isWritable path then
      { exit := some 0, written := some (path, proof.document.pretty), log, sent }
    else .ofFailure (.unwritable path) log sent

/-- Proves a quote: prepares the work, has it done and delivers the proof. -/
def prove (s : Surroundings) (task : ProveTask) : Outcome :=
  match (prepare s task).run.run [] with
  | (.error failure, log) => .ofFailure failure log []
  | (.ok job, log) =>
    match (job.client.proveQuote task.system job.quote job.collateral).run.run
        { moments := s.moments, time := s.time, log } with
    | (.ok proof, scene) => deliver s task.output proof scene.log scene.sent
    | (.error (.failed failure), scene) => .ofFailure (.prover failure) scene.log scene.sent
    | (.error .waiting, scene) => { exit := none, log := scene.log, sent := scene.sent }

/-! ## The program -/

/-- Carries out a task. -/
def perform (s : Surroundings) : Task → Outcome
  | .parse path => parse s path
  | .prove task => prove s task

/-- What the program does with a command line; of the log only what the filter admits is shown. -/
def run (s : Surroundings) (arguments : List String) : Outcome :=
  match Arguments.ofList s.environment arguments with
  | .error refusal => .ofRefusal refusal
  | .ok arguments =>
    let outcome := perform s arguments.task
    let filter := Log.Filter.inForce (s.environment.lookup "RUST_LOG") source arguments.threshold
    { outcome with log := outcome.log.filter filter.admits }

end QuoteProver.Command
