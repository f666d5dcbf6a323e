import QuoteProver.Json.Document
import QuoteProver.Json.Node
import QuoteProver.Text.Decimal
import QuoteProver.Text.Hex

/-!
# Members of records

What the members of JSON records hold besides texts: byte strings as hexadecimal text and 64-bit
numbers as decimal text.  `Node.member` reads a member that must be there, `Node.optionalMember`
one that may be missing or `null`.
-/

namespace QuoteProver.Json

namespace Node

/-- The bytes of a hexadecimal text. -/
def hexBytes? (node : Node) : Option Bytes := do
  (Text.Hex.decode (← node.text?)).toOption

/-- The number of a decimal text. -/
def decimalWord? (node : Node) : Option UInt64 := do
  Text.word? (← node.text?).toList

/-- Reads a member that must be there. -/
def member {α : Type} (read : Node → Option α) : Option Entry → Option α
  | some (_, node) => read node
  | none => none

/-- Reads a member that may be missing or `null`. -/
def optionalMember {α : Type} (read : Node → Option α) : Option Entry → Option (Option α)
  | some (_, node) => node.nullable read
  | none => some none

end Node

/-- A byte string as hexadecimal text. -/
def Document.hex (bytes : Bytes) : Document := .string (Text.Hex.encode bytes)

end QuoteProver.Json
