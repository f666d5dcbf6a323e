import QuoteProver.Quote.Chain
import QuoteProver.Quote.Layout

/-!
# Quotes

`Quote.parse` accepts a quote whose layout is known and whose certification data starts inside of
it.  `collateralKeys` reads from the certificates what the collateral of the quote is filed under.
-/

namespace QuoteProver

/-- A quote with its layout and the offset of its certificates. -/
structure Quote where
  layout : Quote.Layout
  data : Bytes
  chainOffset : Nat
  deriving Repr, DecidableEq

namespace Quote

/-- The bytes between the authentication data and the certificates: their type and their size. -/
def chainHeaderSize : Nat := 6

/-- Reads the layout of a quote and finds the place where its certificates start. -/
def parse (data : Bytes) : Except Failure Quote := do
  let layout ← Layout.detect data
  let sizeEnd := layout.authDataSizeOffset + 2
  if data.length < sizeEnd then throw (.truncated sizeEnd data.length)
  let chainOffset :=
    sizeEnd + Layout.numberAt data layout.authDataSizeOffset 2 + chainHeaderSize
  if data.length < chainOffset then throw (.truncated chainOffset data.length)
  return { layout, data, chainOffset }

/-- The certificates and what follows them. -/
def chainData (q : Quote) : Bytes := q.data.drop q.chainOffset

/-- The certificates of a quote, the one of the platform first. -/
def certificates (q : Quote) : Except Failure (List Der.Certificate) := chain q.chainData

/-- The certificate of the platform, which is the first one. -/
def platformCertificate (q : Quote) : Except Failure Der.Certificate := do
  match ← q.certificates with
  | [] => throw .emptyChain
  | c :: _ => return c

/-- What the collateral of a quote is filed under. -/
def collateralKeys (q : Quote) : Except Failure Collateral.Keys := do
  let c ← q.platformCertificate
  let authority ← authority c
  match (← certificateEntries c).bind Quote.fmspc with
  | none => throw .missingFmspc
  | some fmspc =>
    return { fmspc, authority,
             tcbKind := q.layout.tcbKind, tcbVersion := q.layout.tcbVersion,
             enclaveKind := q.layout.enclaveKind, enclaveVersion := q.layout.version }

end Quote

end QuoteProver
