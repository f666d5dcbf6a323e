import QuoteProver.Text.Pem
import QuoteProver.Text.Quoted

/-!
# Failures of reading quotes
-/

namespace QuoteProver.Quote

/-- Why a quote or its certificates cannot be read. -/
inductive Failure where
  | truncated (needed available : Nat)
  | version (version : Nat)
  | teeType (type : Nat)
  /-- A PEM block that is no certificate. -/
  | blockLabel (label : String)
  | pem (fault : Text.Pem.Fault)
  | certificate
  | asn1 (place : String)
  /-- The certificate of the platform comes from an authority of another name. -/
  | unknownIssuer (name : String)
  | emptyChain
  | missingFmspc
  deriving Repr, DecidableEq

/-- The wording of a failure. -/
def Failure.message : Failure → String
  | truncated needed available => s!"quote truncated: need {needed} bytes, have {available}"
  | version n => s!"unsupported quote version {n}"
  | teeType type => "invalid tee type 0x" ++ String.ofList (Text.hexNumeral type)
  | blockLabel label => s!"unexpected PEM type: {label}"
  | pem fault => "decoding PEM certificate chain: " ++ fault.message
  | certificate => "parsing certificate"
  | asn1 place => s!"{place}: ASN.1 decode error"
  | unknownIssuer name => s!"unknown pck issuer: {name}"
  | emptyChain => "empty certificate chain"
  | missingFmspc => "SGX extension with FMSPC not found in PCK certificate"

end QuoteProver.Quote
