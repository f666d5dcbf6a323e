import QuoteProver.Config.Value

/-!
# Configuration files

A configuration file is found by its path, and its ending says in which format it is.  `jsonEntries`
reads JSON files.  What TOML and YAML files say is the business of readers that are given from outside
(`Formats`), and so is the order in which endings are tried at a path that leads to no file.
-/

namespace QuoteProver.Config

/-- The formats of configuration files. -/
inductive FileFormat where
  | json
  | toml
  | yaml
  deriving Repr, DecidableEq

namespace FileFormat

/-- All formats. -/
def all : List FileFormat := [json, toml, yaml]

/-- The endings of the names of files of a format. -/
def endings : FileFormat → List String
  | json => ["json"]
  | toml => ["toml"]
  | yaml => ["yaml", "yml"]

/-- Whether a path ends in a point and the given ending, with a name in front of them. -/
def hasEnding (path ending : String) : Bool :=
  match path.toList.reverse.drop (ending.length + 1) with
  | c :: _ => ('.' :: ending.toList).isSuffixOf path.toList && c ≠ '/'
  | [] => false

/-- The format that the ending of a path names. -/
def ofPath? (path : String) : Option FileFormat := all.find? fun f => f.endings.any (hasEnding path)

end FileFormat

/-- How configuration files are looked for and read. -/
structure Formats where
  /-- Reads the text of a TOML file. -/
  toml : String → Option (List (String × Value)) := fun _ => none
  /-- Reads the text of a YAML file. -/
  yaml : String → Option (List (String × Value)) := fun _ => none
  /-- The order in which endings are tried at a path that leads to no file. -/
  order : List FileFormat := [.toml, .json, .yaml]

/-- The text of a file, which may start with a byte order mark. -/
def fileText (contents : Bytes) : String :=
  Text.Utf8.decodeLossy (match contents with
    | 0xEF :: 0xBB :: 0xBF :: rest => rest
    | contents => contents)

/-- The entries of the text of a JSON file. -/
def jsonEntries (text : String) : Option (List (String × Value)) := do
  match ← Value.ofNode Value.depthLimit (← Json.Node.ofString text) with
  | .table entries => some entries
  | _ => none

namespace Formats

/-- The entries of the text of a file. -/
def read (formats : Formats) : FileFormat → String → Option (List (String × Value))
  | .json => jsonEntries
  | .toml => formats.toml
  | .yaml => formats.yaml

/-- The files that are tried at a path that leads to none, with their formats; slashes at the end of
the path do not count. -/
def candidates (formats : Formats) (path : String) : List (FileFormat × String) :=
  let stem := String.ofList ((path.toList.reverse.dropWhile (· = '/')).reverse)
  formats.order.flatMap fun f => f.endings.map fun ending => (f, stem ++ "." ++ ending)

/-- The file that a path leads to, with its format. -/
def find? (formats : Formats) (isFile : String → Bool) (path : String) :
    Option (FileFormat × String) :=
  if isFile path then (FileFormat.ofPath? path).map (·, path)
  else (formats.candidates path).find? fun (_, candidate) => isFile candidate

/-- The entries of the configuration file that a path leads to, where `contents` gives the contents of
the files that can be read. -/
def entriesAt (formats : Formats) (isFile : String → Bool) (contents : String → Option Bytes)
    (path : String) : Option (List (String × Value)) := do
  let (format, file) ← formats.find? isFile path
  formats.read format (fileText (← contents file))

end Formats

end QuoteProver.Config
