import QuoteProver.Command.Run

/-!
# The program

Carries out what `Command.run` says.  The program has no network of its own: every request counts
as unanswered.  Nor has it readers of TOML and YAML files, or tables of international names.
-/

namespace QuoteProver

/-- The contents of a file, if it can be read. -/
def contentsOf (path : String) : IO (Option Bytes) := do
  try
    return some (← IO.FS.readBinFile path).toList
  catch _ => return none

/-- Writes a file, if that can be done. -/
def writeTo (path contents : String) : IO Bool := do
  try
    IO.FS.writeFile path contents
    return true
  catch _ => return false

/-- The variables of the environment, as the system lists them. -/
def environmentOfSystem : IO Config.Environment := do
  let listed := ((← contentsOf "/proc/self/environ").getD []).splitOn 0
  return listed.filterMap fun entry =>
    match entry.dropWhile (· ≠ 0x3D) with
    | _ :: value => do
      return (← Text.Utf8.decode? (entry.takeWhile (· ≠ 0x3D)), ← Text.Utf8.decode? value)
    | [] => none

/-- The files that a command line names. -/
def namedFiles (environment : Config.Environment) (arguments : List String) : List String :=
  match Command.Arguments.ofList environment arguments with
  | .ok { task := .parse quote, .. } => [quote]
  | .ok { task := .prove task, .. } =>
    [task.quote, task.collateral] ++ match task.config with
      | some path => path :: (({} : Config.Formats).candidates path).map (·.2)
      | none => []
  | .error _ => []

/-- The guest that the configuration of a command line names. -/
def guestFile (s : Command.Surroundings) (arguments : List String) : Option String := do
  match Command.Arguments.ofList s.environment arguments with
  | .ok { task := .prove task, .. } =>
    (← (← Command.loadConfig s task.config).succinct).programPath
  | _ => none

/-- The contents of those files that can be read. -/
def readFiles (paths : List String) : IO (List (String × Bytes)) := do
  let mut files := []
  for path in paths do
    if let some contents ← contentsOf path then files := files ++ [(path, contents)]
  return files

/-- The surroundings of the program with the files that its command line names. -/
def surroundings (arguments : List String) : IO Command.Surroundings := do
  let environment ← environmentOfSystem
  let files ← readFiles (namedFiles environment arguments)
  let s : Command.Surroundings := {
    contents := fun path => files.lookup path
    isWritable := fun _ => true
    environment := environment
    moments := List.replicate 64 { ticked := true, answer := some .lost } }
  let files := files ++ (← readFiles (guestFile s arguments).toList)
  return { s with contents := fun path => files.lookup path }

/-- How the program is called. -/
def usage : String := "usage: zkdcap-prove [--log-level LEVEL] parse --quote FILE
       zkdcap-prove [--log-level LEVEL] prove --quote FILE --collateral FILE --zk-type SYSTEM
         [--config FILE] [--output FILE]"

/-- Prints and logs an outcome and gives the exit code. -/
def report (outcome : Command.Outcome) : IO UInt32 := do
  for entry in outcome.log do
    IO.eprintln s!"{entry.level.label} {entry.source}: {entry.message}"
  match outcome.refusal with
  | some .help => IO.println usage
  | some (.fault fault) => IO.eprintln s!"error: {fault.message}\n\n{usage}"
  | _ => IO.print outcome.output
  if let some failure := outcome.failure then IO.eprintln s!"Error: {failure.message}"
  return UInt32.ofNat (outcome.exit.getD 1)

end QuoteProver

open QuoteProver in
/-- Runs the program; a proof whose file cannot be written counts as not delivered. -/
def main (arguments : List String) : IO UInt32 := do
  let s ← surroundings arguments
  let outcome := Command.run s arguments
  let done ← match outcome.written with
    | some (path, contents) => writeTo path contents
    | none => pure true
  report (if done then outcome else Command.run { s with isWritable := fun _ => false } arguments)
