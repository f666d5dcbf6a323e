import QuoteProver.Command.Grammar
import QuoteProver.Config.Environment
import QuoteProver.Log.Entry
import QuoteProver.Prover.ProofSystem

/-!
# Arguments of the program

The program has two tasks: to show what a quote says, and to have a quote proven.
`Arguments.ofList` reads them from the command line and the environment.
-/

namespace QuoteProver.Command

open Prover (ProofSystem)

/-! ## Options -/

/-- The option that sets the threshold of the log. -/
def logLevelOption : OptionRule := ⟨"log-level", fun text => (Log.Threshold.ofName? text).isSome⟩

/-- The threshold of the log among the values of options. -/
def thresholdOf (values : Values) : Log.Threshold :=
  ((values.lookup logLevelOption.name).bind Log.Threshold.ofName?).getD (.atLeast .warn)

/-- An option that names a file. -/
def fileOption (name : String) : OptionRule := ⟨name, fun path => !path.isEmpty⟩

/-- The option that names a proof system. -/
def systemOption : OptionRule := ⟨"zk-type", fun text => (ProofSystem.ofText text).isOk⟩

/-- The options that may come from a variable of the environment. -/
def variableOptions : List (OptionRule × String) :=
  [(systemOption, "ZKDCAP_ZK_TYPE"), (fileOption "config", "ZKDCAP_CONFIG")]

/-- The command line in front of the command. -/
def mainGrammar : Grammar where
  options := [logLevelOption]
  flags := [('h', "help", .help), ('V', "version", .version)]
  commands := ["parse", "prove", "help"]

/-- The options of the command that shows a quote. -/
def parseGrammar : Grammar where
  options := [fileOption "quote"]

/-- The options of the command that has a quote proven. -/
def proveGrammar : Grammar where
  options := [fileOption "quote", fileOption "collateral", systemOption, fileOption "config",
    fileOption "output"]

/-! ## Tasks -/

/-- What is to be proven, how, and where the proof goes. -/
structure ProveTask where
  quote : String
  collateral : String
  system : ProofSystem
  /-- The file that configures the backends. -/
  config : Option String
  output : Option String
  deriving Repr, DecidableEq

/-- A task of the program. -/
inductive Task where
  /-- Shows the layout of a quote and what its collateral is filed under. -/
  | parse (quote : String)
  | prove (task : ProveTask)
  deriving Repr, DecidableEq

/-- What the command line asks for. -/
structure Arguments where
  threshold : Log.Threshold
  task : Task
  deriving Repr, DecidableEq

namespace Arguments

/-- The value of an option that must be given. -/
def required (values : Values) (option : String) : Except Refusal String :=
  match values.lookup option with
  | some value => .ok value
  | none => .error (.fault (.missingOption option))

/-- Adds the values of options that were not given but stand in the environment. -/
def withVariables (environment : Config.Environment) (values : Values) : Except Refusal Values :=
  variableOptions.foldlM (fun values (option, name) =>
    match values.lookup option.name, environment.lookup name with
    | none, some value => do return (← Scan.settleValue { values } option value).values
    | _, _ => .ok values) values

/-- Reads the options of the command that has a quote proven. -/
def readProveTask (environment : Config.Environment) (arguments : List String) :
    Except Refusal ProveTask := do
  let values ← withVariables environment (← proveGrammar.values arguments)
  let quote ← required values "quote"
  let collateral ← required values "collateral"
  let system ← (ProofSystem.ofText (← required values systemOption.name)).mapError
    fun _ => .fault (.invalidValue systemOption.name)
  return { quote, collateral, system,
           config := values.lookup "config", output := values.lookup "output" }

/-- Reads the names of the commands to be explained: one at the most. -/
def helpRefusal : List String → Refusal
  | [] => .help
  | name :: rest =>
    if name ∉ mainGrammar.commands then .fault (.unknownCommand name)
    else match rest with
      | [] => .help
      | other :: _ => .fault (.unknownCommand other)

/-- Reads a command and its arguments. -/
def readTask (environment : Config.Environment) (command : String)
    (arguments : List String) : Except Refusal Task := do
  match command with
  | "parse" => return .parse (← required (← parseGrammar.values arguments) "quote")
  | "prove" => return .prove (← readProveTask environment arguments)
  | _ => throw (helpRefusal arguments)

/-- Reads a command line. -/
def ofList (environment : Config.Environment) (arguments : List String) :
    Except Refusal Arguments := do
  let scan ← mainGrammar.scan {} arguments
  match scan.command with
  | some (command, rest) =>
    let task ← readTask environment command rest
    return { task, threshold := thresholdOf (← scan.settle).values }
  | none =>
    let _ ← scan.settle
    throw (.fault .missingCommand)

end Arguments

end QuoteProver.Command
