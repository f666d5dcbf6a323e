import QuoteProver.Prover.Failure

/-!
# Guest inputs

The guest reads one byte string: the time of the request, the lengths of the quote and of the
encoded collateral, and then both.
-/

namespace QuoteProver.Prover

/-- A length that fits four bytes. -/
def partLength (part : String) (bytes : Bytes) : Except Failure Bytes :=
  if bytes.length < Nat.pow 2 32 then .ok (Bytes.littleEndian 4 bytes.length)
  else .error (.inputTooLarge part)

/-- Frames a quote and its encoded collateral. -/
def guestInput (quote collateral : Bytes) (time : UInt64) : Except Failure Bytes := do
  let quoteLength ← partLength "quote" quote
  let collateralLength ← partLength "collateral" collateral
  return Bytes.littleEndian 8 time.toNat ++ quoteLength ++ collateralLength ++ quote ++ collateral

end QuoteProver.Prover
