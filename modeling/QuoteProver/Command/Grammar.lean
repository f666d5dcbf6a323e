/-!
# Command lines

A `Grammar` names the options and the commands that may stand on a command line.  `Grammar.scan`
reads the arguments from the front up to a command.  An option whose value stands in the next
argument is settled only when the next option follows or at the end, so a fault of an argument in
between is found first.
-/

namespace QuoteProver.Command

/-- What is wrong with a command line. -/
inductive UsageFault where
  /-- The value of an option is missing or is none of those it can have. -/
  | invalidValue (option : String)
  | unknownArgument (argument : String)
  | repeatedOption (option : String)
  /-- A flag comes with a value. -/
  | unneededValue (flag : String)
  | missingOption (option : String)
  | missingCommand
  | unknownCommand (name : String)
  deriving Repr, DecidableEq

/-- The wording of a fault. -/
def UsageFault.message : UsageFault → String
  | invalidValue option => s!"invalid or missing value for --{option}"
  | unknownArgument argument => s!"unexpected argument {argument}"
  | repeatedOption option => s!"--{option} is given more than once"
  | unneededValue flag => s!"--{flag} takes no value"
  | missingOption option => s!"--{option} is required"
  | missingCommand => "a command is required"
  | unknownCommand name => s!"unknown command {name}"

/-- Why a command line asks for no work. -/
inductive Refusal where
  | help
  | version
  | fault (fault : UsageFault)
  deriving Repr, DecidableEq

/-- An option with the values that it can have. -/
structure OptionRule where
  name : String
  accepts : String → Bool

/-- What may stand on a command line. -/
structure Grammar where
  options : List OptionRule
  /-- The flags that ask for a text instead of work: their letters and names. -/
  flags : List (Char × String × Refusal) := [('h', "help", .help)]
  commands : List String := []

/-- The values of options, in the order in which they were settled. -/
abbrev Values := List (String × String)

/-- An option that is not settled yet. -/
inductive Unsettled where
  | nothing
  | awaiting (option : OptionRule)
  | holding (option : OptionRule) (value : String)

/-- How far a command line has been read. -/
structure Scan where
  values : Values := []
  unsettled : Unsettled := .nothing
  /-- The command, with the arguments behind it. -/
  command : Option (String × List String) := none

namespace Scan

/-- Settles an option with a value. -/
def settleValue (s : Scan) (option : OptionRule) (value : String) : Except Refusal Scan :=
  if s.values.any (·.1 = option.name) then .error (.fault (.repeatedOption option.name))
  else if option.accepts value then
    .ok { s with values := s.values ++ [(option.name, value)], unsettled := .nothing }
  else .error (.fault (.invalidValue option.name))

/-- Settles what is not settled yet. -/
def settle (s : Scan) : Except Refusal Scan :=
  match s.unsettled with
  | .nothing => .ok s
  | .awaiting option => .error (.fault (.invalidValue option.name))
  | .holding option value => s.settleValue option value

end Scan

/-- What an argument looks like. -/
inductive Look where
  | long (name : String) (value : Option String)
  | short (letter : Char)
  | plain

/-- The look of an argument. -/
def Look.of (argument : String) : Look :=
  match argument.toList with
  | '-' :: '-' :: text =>
    match text.dropWhile (· ≠ '=') with
    | _ :: value => .long (String.ofList (text.takeWhile (· ≠ '='))) (some (String.ofList value))
    | [] => .long (String.ofList text) none
  | '-' :: letter :: _ => .short letter
  | _ => .plain

namespace Grammar

/-- Reads an option or flag of a name. -/
def scanLong (g : Grammar) (s : Scan) (argument name : String) (value : Option String) :
    Except Refusal Scan :=
  match g.options.find? (·.name = name), g.flags.find? (·.2.1 = name), value with
  | some option, _, some value => do (← s.settle).settleValue option value
  | some option, _, none => do return { ← s.settle with unsettled := .awaiting option }
  | none, some _, some _ => .error (.fault (.unneededValue name))
  | none, some (_, _, refusal), none => do
    let _ ← s.settle
    .error refusal
  | none, none, _ => .error (.fault (.unknownArgument argument))

/-- Reads a letter behind a single dash. -/
def scanShort (g : Grammar) (s : Scan) (argument : String) (letter : Char) :
    Except Refusal Scan :=
  match g.flags.find? (·.1 = letter) with
  | some (_, _, refusal) => do
    let _ ← s.settle
    .error refusal
  | none => .error (.fault (.unknownArgument argument))

/-- Reads an argument that is no command. -/
def scanArgument (g : Grammar) (s : Scan) (argument : String) : Except Refusal Scan :=
  match Look.of argument, s.unsettled with
  | .long name value, _ => g.scanLong s argument name value
  | .short letter, _ => g.scanShort s argument letter
  | .plain, .awaiting option => .ok { s with unsettled := .holding option argument }
  | .plain, _ =>
    .error (.fault (if g.commands.isEmpty then .unknownArgument argument
      else .unknownCommand argument))

/-- Whether an argument is a command: it names one, and no value must come next. -/
def isCommand (g : Grammar) (s : Scan) (argument : String) : Bool :=
  argument ∈ g.commands && match s.unsettled with
    | .awaiting _ => false
    | _ => true

/-- Reads arguments up to a command; nothing may follow two dashes. -/
def scan (g : Grammar) (s : Scan) : List String → Except Refusal Scan
  | [] => .ok s
  | "--" :: [] => .ok s
  | "--" :: argument :: _ => .error (.fault (.unknownArgument argument))
  | argument :: rest =>
    if g.isCommand s argument then .ok { s with command := some (argument, rest) }
    else do g.scan (← g.scanArgument s argument) rest

/-- Reads a command line without commands. -/
def values (g : Grammar) (arguments : List String) : Except Refusal Values := do
  return (← (← g.scan {} arguments).settle).values

end Grammar

end QuoteProver.Command
