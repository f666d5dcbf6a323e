import QuoteProver.Text.Blank
import QuoteProver.Text.Hex

/-!
# Quote files

A file holds a quote either as its bytes or as hexadecimal text.
-/

namespace QuoteProver.Quote

/-- A text without `0x` at its front. -/
def dropHexMark : List Char → List Char
  | '0' :: 'x' :: digits => digits
  | digits => digits

/-- The quote that a file holds: what its hexadecimal text denotes, if it is one, with white space
around it and `0x` in front if need be, and its bytes otherwise. -/
def ofFile (contents : Bytes) : Bytes :=
  match Text.Utf8.decode contents with
  | .ok text =>
    match Text.Hex.decode (String.ofList (dropHexMark (Text.trim text))) with
    | .ok quote => quote
    | .error _ => contents
  | .error _ => contents

end QuoteProver.Quote
