import QuoteProver.Config.Value

/-!
# Environment variables

Variables of a common first name set entries of the configuration: two underscores separate the
names on the path to the setting, and letters of both cases are the same.
-/

namespace QuoteProver.Config

/-- The environment variables with their values. -/
abbrev Environment := List (String × String)

namespace Environment

/-- The start of the names of variables that set configuration entries, in lower case. -/
def settingStart : String := "zkdcap__"

/-- A text in which two underscores in a row are points. -/
def pointed : List Char → List Char
  | '_' :: '_' :: rest => '.' :: pointed rest
  | c :: rest => c :: pointed rest
  | [] => []

/-- The lower case of a character, if that is an ASCII letter: the Kelvin sign is the only character
beyond ASCII with such a lower case.  Others make no difference, for no setting has them in its name. -/
def lowerChar (c : Char) : Char := if c = '\u212A' then 'k' else c.toLower

/-- The name of a variable in lower case. -/
def lowerName (name : String) : List Char := name.toList.map lowerChar

/-- The setting that a variable makes. -/
def setting? (name value : String) : Option (String × Value) :=
  let lower := lowerName name
  if settingStart.toList.isPrefixOf lower then
    some (String.ofList (pointed (lower.drop settingStart.length)), .ofVariable value)
  else none

/-- The settings that the variables make. -/
def settings (environment : Environment) : List (String × Value) :=
  environment.filterMap fun (name, value) => setting? name value

/-- The value of a variable, or a default if it is missing or empty. -/
def valueOr (environment : Environment) (name default : String) : String :=
  match environment.lookup name with
  | some value => if value.isEmpty then default else value
  | none => default

end Environment

end QuoteProver.Config
