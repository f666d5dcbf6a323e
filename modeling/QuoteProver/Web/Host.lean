import QuoteProver.Text.Hex
import QuoteProver.Text.Utf8

/-!
# Hosts

A host of a web address is a domain name, an IPv4 address or an IPv6 address in brackets.
`parseNetworkHost` and `parseOpaqueHost` say which texts are hosts.  Domain names are percent-decoded.
A plain name is put in lower case; which ASCII form an international one has, and whether it has one,
is the business of `DomainToAscii`, which is given from outside.
-/

namespace QuoteProver.Web

/-- Why a text is no URL. -/
inductive UrlFault where
  | emptyHost
  | domain
  | hostCharacter
  | port
  | ipv4
  | ipv6
  | noBase
  | opaqueBase
  deriving Repr, DecidableEq

/-- The wording of a fault of a URL. -/
def UrlFault.message : UrlFault → String
  | emptyHost => "empty host"
  | domain => "invalid international domain name"
  | hostCharacter => "invalid domain character"
  | port => "invalid port number"
  | ipv4 => "invalid IPv4 address"
  | ipv6 => "invalid IPv6 address"
  | noBase => "relative URL without a base"
  | opaqueBase => "relative URL with a cannot-be-a-base base"

/-! ## Percent encoding -/

/-- A byte as a percent sign and two upper case digits. -/
def percentByte (b : UInt8) : List Char := '%' :: (Text.Hex.digits b).map Char.toUpper

/-- A text with the percent forms of the bytes that are control characters, beyond ASCII or
in `reserved`. -/
def percentEncode (reserved : List Char) (text : List Char) : List Char :=
  text.flatMap fun c =>
    if c.toNat < 0x20 || 0x7F ≤ c.toNat || c ∈ reserved then
      (Text.Utf8.encodeChar c).flatMap percentByte
    else [c]

/-- The bytes of a text in which percent forms stand for bytes. -/
def percentDecode : Bytes → Bytes
  | 0x25 :: a :: b :: rest =>
    match Text.Hex.digitValue? a, Text.Hex.digitValue? b with
    | some high, some low => UInt8.ofNat (high * 16 + low) :: percentDecode rest
    | _, _ => 0x25 :: percentDecode (a :: b :: rest)
  | b :: rest => b :: percentDecode rest
  | [] => []

/-! ## Splitting -/

/-- The parts of a text between the occurrences of a separator. -/
def splitOnChar (separator : Char) : List Char → List (List Char)
  | [] => [[]]
  | c :: rest =>
    if c = separator then [] :: splitOnChar separator rest
    else match splitOnChar separator rest with
      | part :: parts => (c :: part) :: parts
      | [] => [[c]]

/-- The texts in front of the first two colons in a row and behind them. -/
def cutAtColons : List Char → Option (List Char × List Char)
  | ':' :: ':' :: rest => some ([], rest)
  | c :: rest => (cutAtColons rest).map fun (front, back) => (c :: front, back)
  | [] => none

/-! ## IPv6 -/

/-- Whether a character is a hexadecimal digit. -/
def isHexDigit (c : Char) : Bool :=
  c.isDigit || ('a' ≤ c && c ≤ 'f') || ('A' ≤ c && c ≤ 'F')

/-- Whether a text is four decimal numbers below 256 without leading zeros. -/
def isDottedQuad (text : List Char) : Bool :=
  let parts := splitOnChar '.' text
  parts.length = 4 && parts.all fun part =>
    !part.isEmpty && part.length ≤ 3 && part.all Char.isDigit &&
      (part.head? ≠ some '0' || part.length = 1) &&
      part.foldl (fun n c => n * 10 + (c.toNat - 48)) 0 < 256

/-- The number of 16-bit units that groups between colons denote; only the last group of all may
be a dotted quad. -/
def countUnits (quadAllowed : Bool) : List (List Char) → Option Nat
  | [] => some 0
  | [part] =>
    if !part.isEmpty && part.length ≤ 4 && part.all isHexDigit then some 1
    else if quadAllowed && isDottedQuad part then some 2
    else none
  | part :: parts =>
    if !part.isEmpty && part.length ≤ 4 && part.all isHexDigit then
      (countUnits quadAllowed parts).map (· + 1)
    else none

/-- The groups of a text, which are none if it is empty. -/
def colonGroups (text : List Char) : List (List Char) :=
  if text.isEmpty then [] else splitOnChar ':' text

/-- Whether a text is an IPv6 address: eight units, or fewer around two colons. -/
def isIpv6 (text : List Char) : Bool :=
  match cutAtColons text with
  | none => countUnits true (colonGroups text) = some 8
  | some (front, back) =>
    match countUnits false (colonGroups front), countUnits true (colonGroups back) with
    | some m, some n => m + n ≤ 7
    | _, _ => false

/-! ## IPv4 -/

/-- The number that a part of an IPv4 address denotes: decimal, octal after a zero, or
hexadecimal after `0x`. -/
def ipv4Part? (part : List Char) : Option Nat :=
  match part with
  | [] => none
  | '0' :: x :: digits =>
    if x = 'x' || x = 'X' then
      if digits.all isHexDigit then
        some (digits.foldl (fun n c => n * 16 + ((Text.Hex.digitValue? (UInt8.ofNat c.toNat)).getD 0)) 0)
      else none
    else if (x :: digits).all fun c => '0' ≤ c && c ≤ '7' then
      some ((x :: digits).foldl (fun n c => n * 8 + (c.toNat - 48)) 0)
    else none
  | digits =>
    if digits.all Char.isDigit then some (digits.foldl (fun n c => n * 10 + (c.toNat - 48)) 0)
    else none

/-- The parts of a dotted name; an empty last part is left out. -/
def dottedParts (name : List Char) : List (List Char) :=
  let parts := splitOnChar '.' name
  if 1 < parts.length && parts.getLast? = some [] then parts.dropLast else parts

/-- Whether the last part of a name is a number, so that it can only be an IPv4 address. -/
def endsInNumber (name : List Char) : Bool :=
  match (dottedParts name).getLast? with
  | none => false
  | some part => (!part.isEmpty && part.all Char.isDigit) ||
      (part.take 2 = ['0', 'x'] && (part.drop 2).all isHexDigit)

/-- Whether a name is an IPv4 address: one to four numbers, all but the last below 256, the last
one below what the missing parts leave. -/
def isIpv4 (name : List Char) : Bool :=
  match (dottedParts name).mapM ipv4Part? with
  | none => false
  | some numbers =>
    numbers.length ≤ 4 && (numbers.dropLast.all (· < 256)) &&
      (numbers.getLast?.getD 0) < Nat.pow 256 (5 - numbers.length)

/-! ## Hosts -/

/-- The characters that a domain name cannot hold, control characters apart. -/
def forbiddenInDomain : List Char :=
  [' ', '#', '/', ':', '<', '>', '?', '@', '[', '\\', ']', '^', '|', '%', '\x7f']

/-- The characters that a host of an unknown scheme cannot hold. -/
def forbiddenInHost : List Char :=
  ['\x00', '\t', '\n', '\r', ' ', '#', '/', ':', '<', '>', '?', '@', '[', '\\', ']', '^', '|']

/-- An IPv6 address behind its opening bracket. -/
def parseBracketed (rest : List Char) : Except UrlFault (List Char) :=
  if rest.getLast? = some ']' && isIpv6 rest.dropLast then .ok ('[' :: rest) else .error .ipv6

/-- The rules for international names: the ASCII form of a name that is not plain, if it has one. -/
abbrev DomainToAscii := List Char → Option (List Char)

/-- Whether a name is its own ASCII form: it is in ASCII, and none of its labels stands for one that
is not. -/
def isPlainName (name : List Char) : Bool :=
  name.all (·.toNat < 0x80) && (splitOnChar '.' name).all fun label => label.take 4 ≠ "xn--".toList

/-- The ASCII form of a domain name.  No name has the character that stands for bytes beyond UTF-8. -/
def asciiName? (toAscii : DomainToAscii) (name : List Char) : Option (List Char) :=
  let lower := name.map Char.toLower
  if isPlainName lower then some lower
  else if lower.any (·.toNat = 0xFFFD) then none
  else toAscii lower

/-- Whether a name has a character that no domain name has. -/
def isForbiddenName (name : List Char) : Bool :=
  name.any fun c => c.toNat < 0x20 || c ∈ forbiddenInDomain

/-- A host of a scheme whose hosts are network addresses. -/
def parseNetworkHost (toAscii : DomainToAscii) (text : List Char) : Except UrlFault (List Char) :=
  match text with
  | '[' :: rest => parseBracketed rest
  | _ =>
    match asciiName? toAscii
      (Text.Utf8.decodeLossyChars (percentDecode (text.flatMap Text.Utf8.encodeChar))) with
    | none => .error .domain
    | some name =>
      if name.isEmpty then .error .emptyHost
      else if isForbiddenName name then .error .domain
      else if endsInNumber name then if isIpv4 name then .ok name else .error .ipv4
      else .ok name

/-- A host of any other scheme. -/
def parseOpaqueHost (text : List Char) : Except UrlFault (List Char) :=
  match text with
  | '[' :: rest => parseBracketed rest
  | _ => if text.any (· ∈ forbiddenInHost) then .error .hostCharacter
    else .ok (percentEncode [] text)

end QuoteProver.Web
