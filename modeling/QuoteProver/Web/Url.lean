import QuoteProver.Web.Host

/-!
# URLs

A `Url` is an absolute web address.  `Url.parse` reads one, `Url.join` resolves a reference
against one, and `Url.target` is the path and query that a request to it names.  Fragments and
user information are read and dropped.  The rules for international names in hosts are an argument.
-/

namespace QuoteProver.Web

/-- What follows the authority of a URL: segments after slashes, or a text without structure. -/
inductive UrlPath where
  | segments (segments : List (List Char))
  | unstructured (text : List Char)
  deriving Repr, DecidableEq

/-- An absolute web address. -/
structure Url where
  scheme : List Char
  host : Option (List Char)
  port : Option Nat
  path : UrlPath
  query : Option (List Char)
  deriving Repr, DecidableEq

namespace Url

/-! ## Schemes -/

/-- Whether hosts of a scheme are network addresses and backslashes count as slashes. -/
def isSpecial (scheme : List Char) : Bool :=
  scheme ∈ ["http", "https", "ws", "wss", "ftp", "file"].map String.toList

/-- The port that a scheme implies. -/
def defaultPort (scheme : List Char) : Option Nat :=
  if scheme ∈ ["http", "ws"].map String.toList then some 80
  else if scheme ∈ ["https", "wss"].map String.toList then some 443
  else if scheme = "ftp".toList then some 21
  else none

/-- Whether a character can stand inside a scheme. -/
def isSchemeChar (c : Char) : Bool := c.isAlphanum || c = '+' || c = '-' || c = '.'

/-- The scheme in lower case and what follows its colon. -/
def splitScheme (text : List Char) : Option (List Char × List Char) :=
  match text with
  | c :: _ =>
    if c.isAlpha then
      match text.dropWhile isSchemeChar with
      | ':' :: rest => some ((text.takeWhile isSchemeChar).map Char.toLower, rest)
      | _ => none
    else none
  | [] => none

/-! ## Paths and queries -/

/-- Whether a character stands between the segments of a path. -/
def isSlash (special : Bool) (c : Char) : Bool := c = '/' || (special && c = '\\')

/-- The characters of a path that are percent-encoded. -/
def reservedInPath : List Char := [' ', '"', '<', '>', '`', '#', '?', '\x7b', '\x7d']

/-- The characters of a query that are percent-encoded. -/
def reservedInQuery (special : Bool) : List Char :=
  [' ', '"', '<', '>', '#'] ++ if special then ['\''] else []

/-- A segment with the percent forms of dots replaced by dots. -/
def plainDots : List Char → List Char
  | '%' :: '2' :: e :: rest =>
    if e = 'e' || e = 'E' then '.' :: plainDots rest else '%' :: '2' :: plainDots (e :: rest)
  | c :: rest => c :: plainDots rest
  | [] => []

/-- Appends the segments of a text, which stand between slashes, to those in front of it: one
dot is left out, two dots remove the segment in front. -/
def resolve (before : List (List Char)) : List (List Char) → List (List Char)
  | [] => before
  | [segment] =>
    if plainDots segment = ['.', '.'] then before.dropLast ++ [[]]
    else if plainDots segment = ['.'] then before ++ [[]]
    else before ++ [percentEncode reservedInPath segment]
  | segment :: segments =>
    if plainDots segment = ['.', '.'] then resolve before.dropLast segments
    else if plainDots segment = ['.'] then resolve before segments
    else resolve (before ++ [percentEncode reservedInPath segment]) segments

/-- The parts of a path between slashes. -/
def splitPath (special : Bool) (text : List Char) : List (List Char) :=
  splitOnChar '/' (text.map fun c => if isSlash special c then '/' else c)

/-- The texts in front of the query, between the question mark and the fragment. -/
def splitQuery (text : List Char) : List Char × Option (List Char) :=
  let text := text.takeWhile (· ≠ '#')
  match text.dropWhile (· ≠ '?') with
  | _ :: query => (text.takeWhile (· ≠ '?'), some query)
  | [] => (text, none)

/-- A URL with the path segments `before` followed by those of a text, and with its query. -/
def withPath (url : Url) (before : List (List Char)) (text : List Char) : Url :=
  let special := isSpecial url.scheme
  let (path, query) := splitQuery text
  { url with
    path := .segments (resolve before (splitPath special path))
    query := query.map (percentEncode (reservedInQuery special)) }

/-- A URL with the path and query that a text behind the authority or the scheme spells. -/
def withPathStart (url : Url) (text : List Char) : Url :=
  let special := isSpecial url.scheme
  match text with
  | c :: rest =>
    if isSlash special c then url.withPath [] rest
    else if special then url.withPath [] text
    else if c = '?' || c = '#' then
      { url with path := .segments [], query := (splitQuery text).2.map (percentEncode (reservedInQuery false)) }
    else url.withPath [] text
  | [] => { url with path := .segments (if special then [[]] else []), query := none }

/-! ## Authorities -/

/-- The text behind the last `@` of an authority. -/
def dropUserinfo (authority : List Char) : List Char :=
  ((splitOnChar '@' authority).getLast?).getD []

/-- The host of an authority, up to a colon outside brackets, and the rest. -/
def splitHost (bracketed : Bool) : List Char → List Char × List Char
  | [] => ([], [])
  | c :: rest =>
    if c = ':' && !bracketed then ([], c :: rest)
    else
      let (host, after) := splitHost (if c = '[' then true else if c = ']' then false else bracketed) rest
      (c :: host, after)

/-- The port that a text behind the host names. -/
def parsePort (scheme : List Char) : List Char → Except UrlFault (Option Nat)
  | ':' :: digits =>
    if digits.all Char.isDigit then
      let port := digits.foldl (fun n c => n * 10 + (c.toNat - 48)) 0
      if 65535 < port then .error .port
      else if digits.isEmpty || some port = defaultPort scheme then .ok none
      else .ok (some port)
    else .error .port
  | _ => .ok none

/-- Reads an authority and what follows it. -/
def parseAuthority (toAscii : DomainToAscii) (scheme text : List Char) : Except UrlFault Url := do
  let special := isSpecial scheme
  let ends (c : Char) : Bool := isSlash special c || c = '?' || c = '#'
  let authority := text.takeWhile (!ends ·)
  let after := text.dropWhile (!ends ·)
  let (hostText, portText) := splitHost false (dropUserinfo authority)
  if hostText.isEmpty && (special || '@' ∈ authority || !portText.isEmpty) then throw .emptyHost
  let host ← if special then parseNetworkHost toAscii hostText else parseOpaqueHost hostText
  let port ← parsePort scheme portText
  return ({ scheme, host := some host, port, path := .segments [], query := none } : Url).withPathStart
    after

/-! ## Reading -/

/-- Whether a character is dropped at both ends of a URL. -/
def isOuterBlank (c : Char) : Bool := c.toNat ≤ 0x20

/-- The characters of a URL that count. -/
def significant (text : String) : List Char :=
  let trimmed := (((text.toList.dropWhile isOuterBlank).reverse).dropWhile isOuterBlank).reverse
  trimmed.filter fun c => c ≠ '\t' && c ≠ '\n' && c ≠ '\r'

/-- Reads what follows the colon of a scheme. -/
def parseAfterScheme (toAscii : DomainToAscii) (scheme rest : List Char) : Except UrlFault Url :=
  if scheme = "file".toList then
    let slashes := rest.takeWhile (isSlash true)
    let path := if 2 ≤ slashes.length then
        (rest.drop 2).dropWhile (!isSlash true ·) else rest
    .ok (({ scheme, host := none, port := none, path := .segments [], query := none } : Url).withPathStart
      path)
  else if isSpecial scheme then parseAuthority toAscii scheme (rest.dropWhile (isSlash true))
  else match rest with
    | '/' :: '/' :: rest => parseAuthority toAscii scheme rest
    | '/' :: _ =>
      .ok (({ scheme, host := none, port := none, path := .segments [], query := none } : Url).withPathStart
        rest)
    | _ =>
      let (path, query) := splitQuery rest
      .ok { scheme, host := none, port := none, path := .unstructured (percentEncode [] path),
            query := query.map (percentEncode (reservedInQuery false)) }

/-- Reads an absolute URL. -/
def parse (toAscii : DomainToAscii) (text : String) : Except UrlFault Url :=
  match splitScheme (significant text) with
  | some (scheme, rest) => parseAfterScheme toAscii scheme rest
  | none => .error .noBase

/-- The segments of the path of a URL, if it has any. -/
def segments (url : Url) : List (List Char) :=
  match url.path with
  | .segments segments => segments
  | .unstructured _ => []

/-- Resolves a reference that names no scheme of its own. -/
def joinRelative (toAscii : DomainToAscii) (base : Url) (text : List Char) : Except UrlFault Url :=
  let special := isSpecial base.scheme
  match text with
  | [] => .ok base
  | c :: rest =>
    if c = '#' then .ok base
    else if c = '?' then
      .ok { base with query := (splitQuery text).2.map (percentEncode (reservedInQuery special)) }
    else if isSlash special c then
      match rest with
      | d :: rest =>
        if isSlash special d then
          parseAuthority toAscii base.scheme (if special then rest.dropWhile (isSlash true) else rest)
        else .ok (base.withPath [] (d :: rest))
      | [] => .ok (base.withPath [] [])
    else .ok (base.withPath base.segments.dropLast text)

/-- Resolves a reference against a URL. -/
def join (toAscii : DomainToAscii) (base : Url) (reference : String) : Except UrlFault Url :=
  let text := significant reference
  match splitScheme text with
  | some (scheme, rest) =>
    if isSpecial scheme && scheme = base.scheme && (rest.takeWhile (isSlash true)).length < 2 then
      base.joinRelative toAscii rest
    else parseAfterScheme toAscii scheme rest
  | none =>
    match base.path with
    | .unstructured _ => if text.head? = some '#' then .ok base else .error .opaqueBase
    | .segments _ => base.joinRelative toAscii text

/-! ## Use -/

/-- The path and the query that a request to the URL names. -/
def target (url : Url) : String :=
  let path := match url.path with
    | .segments [] => ['/']
    | .segments segments => segments.flatMap ('/' :: ·)
    | .unstructured text => text
  String.ofList (path ++ match url.query with | some query => '?' :: query | none => [])

/-- Whether requests can be sent to the URL. -/
def isHttp (url : Url) : Bool := url.scheme ∈ ["http", "https"].map String.toList

end Url

end QuoteProver.Web
