import QuoteProver.Config.Environment
import QuoteProver.Config.File
import QuoteProver.Text.Quoted

/-!
# Configuration of the backends

`Bonsai` and `Succinct` hold what the two proving services need.  `complete` fills in what is
missing from the environment and from defaults; `Backends.complete` also drops the services without
a key.  `Backends.ofEntries` lays environment variables over the entries of a file and completes the
result.
-/

namespace QuoteProver.Config

/-- The seconds that a request may take unless configured. -/
def defaultTimeout : UInt64 := 30

/-- The seconds between two status requests unless configured. -/
def defaultPollInterval : UInt64 := 5

/-- A text unless it is empty, which a default replaces. -/
def textOr (text default : String) : String := if text.isEmpty then default else text

/-- A number unless it is zero, which a default replaces. -/
def wordOr (n default : UInt64) : UInt64 := if n = 0 then default else n

/-- An address with a slash at its end; the empty one stays. -/
def withSlash (url : String) : String :=
  if url.isEmpty || url.toList.getLast? = some '/' then url else url ++ "/"

/-- What messages show of a secret. -/
def redacted (secret : String) : String := if secret.isEmpty then "" else "<redacted>"

/-- A record with its label, as messages show it. -/
def describeRecord (label : String) (fields : List (String × String)) : String :=
  label ++ " \x7b " ++ ", ".intercalate (fields.map fun (name, text) => name ++ ": " ++ text) ++
    " \x7d"

/-! ## The two services -/

/-- The configuration of the service that runs and proves guests of the first proof system. -/
structure Bonsai where
  apiUrl : String := ""
  apiKey : String := ""
  /-- The version of the machine that is sent with every request. -/
  version : String := ""
  imageId : String := ""
  timeout : UInt64 := 0
  pollInterval : UInt64 := 0
  deriving Repr, DecidableEq

namespace Bonsai

/-- The published guest that verifies quotes. -/
def defaultImageId : String := "83613a8beec226d1f29714530f1df791fa16c2c4dfcf22c50ab7edac59ca637f"

/-- Fills in what is missing. -/
def complete (environment : Environment) (c : Bonsai) : Bonsai where
  apiUrl := withSlash
    (textOr c.apiUrl (environment.valueOr "BONSAI_API_URL" "https://api.bonsai.xyz/"))
  apiKey := textOr c.apiKey (environment.valueOr "BONSAI_API_KEY" "")
  version := textOr c.version "1.1.2"
  imageId := textOr c.imageId defaultImageId
  timeout := wordOr c.timeout defaultTimeout
  pollInterval := wordOr c.pollInterval defaultPollInterval

/-- Whether there is a key for the service. -/
def isConfigured (c : Bonsai) : Bool := !c.apiKey.isEmpty

/-- The configuration as messages show it: without the key. -/
def describe (label : String) (c : Bonsai) : String :=
  describeRecord label
    [("api_url", Text.quoteString c.apiUrl), ("api_key", Text.quoteString (redacted c.apiKey)),
      ("risc0_version", Text.quoteString c.version), ("image_id", Text.quoteString c.imageId),
      ("timeout_secs", toString c.timeout.toNat),
      ("poll_interval_secs", toString c.pollInterval.toNat)]

/-- Reads the section of the service. -/
def ofValue (value : Value) : Option Bonsai := do
  match ← value.fields? ["api_url", "api_key", "risc0_version", "image_id", "timeout_secs",
      "poll_interval_secs"] with
  | [apiUrl, apiKey, version, imageId, timeout, pollInterval] =>
    return { apiUrl := ← Value.fieldOr "" Value.text? apiUrl,
             apiKey := ← Value.fieldOr "" Value.text? apiKey,
             version := ← Value.fieldOr "" Value.text? version,
             imageId := ← Value.fieldOr "" Value.text? imageId,
             timeout := ← Value.fieldOr 0 Value.word? timeout,
             pollInterval := ← Value.fieldOr 0 Value.word? pollInterval }
  | _ => none

end Bonsai

/-- The configuration of the prover network for guests of the second proof system. -/
structure Succinct where
  rpc : String := ""
  /-- The key of the account, in hexadecimal digits. -/
  privateKey : String := ""
  timeout : UInt64 := 0
  pollInterval : UInt64 := 0
  /-- The version of the circuits to prove with. -/
  version : String := ""
  programPath : Option String := none
  deriving Repr, DecidableEq

namespace Succinct

/-- Fills in what is missing; there is no default for the guest. -/
def complete (environment : Environment) (c : Succinct) : Succinct where
  rpc := withSlash
    (textOr c.rpc (environment.valueOr "PROVER_NETWORK_RPC" "https://rpc.succinct.xyz/"))
  privateKey := textOr c.privateKey (environment.valueOr "SP1_PRIVATE_KEY" "")
  timeout := wordOr c.timeout defaultTimeout
  pollInterval := wordOr c.pollInterval defaultPollInterval
  version := textOr c.version "v3.0.0"
  programPath := c.programPath

/-- Whether there is a key for an account of the network. -/
def isConfigured (c : Succinct) : Bool := !c.privateKey.isEmpty

/-- The configuration as messages show it: without the key. -/
def describe (label : String) (c : Succinct) : String :=
  describeRecord label
    [("rpc", Text.quoteString c.rpc), ("private_key", Text.quoteString (redacted c.privateKey)),
      ("timeout_secs", toString c.timeout.toNat),
      ("poll_interval_secs", toString c.pollInterval.toNat),
      ("version", Text.quoteString c.version),
      ("program_path", match c.programPath with
        | some path => "Some(" ++ Text.quotePath path ++ ")"
        | none => "None")]

/-- Reads the section of the network. -/
def ofValue (value : Value) : Option Succinct := do
  match ← value.fields? ["rpc", "private_key", "timeout_secs", "poll_interval_secs", "version",
      "program_path"] with
  | [rpc, privateKey, timeout, pollInterval, version, programPath] =>
    return { rpc := ← Value.fieldOr "" Value.text? rpc,
             privateKey := ← Value.fieldOr "" Value.text? privateKey,
             timeout := ← Value.fieldOr 0 Value.word? timeout,
             pollInterval := ← Value.fieldOr 0 Value.word? pollInterval,
             version := ← Value.fieldOr "" Value.text? version,
             programPath := ← Value.fieldOr none Value.optionalText? programPath }
  | _ => none

end Succinct

/-! ## Both services -/

/-- The configuration of the backends; a service may be left out. -/
structure Backends where
  bonsai : Option Bonsai := none
  succinct : Option Succinct := none
  deriving Repr, DecidableEq

namespace Backends

/-- Fills in what is missing and drops the services without a key. -/
def complete (environment : Environment) (c : Backends) : Backends where
  bonsai := some ((c.bonsai.getD {}).complete environment) |>.filter Bonsai.isConfigured
  succinct := some ((c.succinct.getD {}).complete environment) |>.filter Succinct.isConfigured

/-- Reads a section that may be nothing. -/
def sectionOf {α : Type} (read : Value → Option α) : Option Value → Option (Option α)
  | none => some none
  | some .nothing => some none
  | some value => (read value).map some

/-- Reads both sections. -/
def ofValue (value : Value) : Option Backends := do
  return { bonsai := ← sectionOf Bonsai.ofValue (value.entries.lookup "bonsai"),
           succinct := ← sectionOf Succinct.ofValue (value.entries.lookup "sp1") }

/-- The configuration that the entries of a file make with the environment over them. -/
def ofEntries (entries : List (String × Value)) (environment : Environment) : Option Backends := do
  let value := Value.overAll environment.settings (Value.overAll entries (.table []))
  return (← ofValue value).complete environment

/-- The configuration of an optional JSON file with the environment over it. -/
def load (file : Option Bytes) (environment : Environment) : Option Backends := do
  let entries ← match file with
    | some contents => jsonEntries (fileText contents)
    | none => some []
  ofEntries entries environment

end Backends

end QuoteProver.Config
