import QuoteProver.Json.Document
import QuoteProver.Quote.Basic

/-!
# Summaries of quotes

What a quote says about itself, as a JSON record for people.
-/

namespace QuoteProver.Quote

/-- The record of a quote: its layout and what its collateral is filed under. -/
def summary (q : Quote) : Except Failure Json.Document := do
  let keys ← q.collateralKeys
  return .object [
    ("cert_data_offset", .number q.chainOffset),
    ("enclave_id_type", .number keys.enclaveKind.code),
    ("enclave_id_version", .number keys.enclaveVersion.toNat),
    ("fmspc", .string keys.fmspc),
    ("layout", .string q.layout.name),
    ("pck_ca", .string keys.authority.name),
    ("pck_ca_code", .number keys.authority.code),
    ("tcb_type", .number keys.tcbKind.code),
    ("tcb_version", .number keys.tcbVersion.toNat),
    ("tee_type", .string ("0x" ++ String.ofList (Text.hexNumeral q.layout.teeType))),
    ("version", .number q.layout.version.toNat)]

end QuoteProver.Quote
