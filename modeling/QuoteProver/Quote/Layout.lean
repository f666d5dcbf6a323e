import QuoteProver.Collateral.Catalog
import QuoteProver.Quote.Failure

/-!
# Quote layouts

The first eight bytes of a quote tell its `Layout`: a version, and from version 4 on the type of
the environment that is attested.  The layout fixes where the certification data stands and what
collateral belongs to the quote.
-/

namespace QuoteProver.Quote

/-- The layout of a quote. -/
inductive Layout where
  | v3
  | v4Sgx
  | v4Tdx
  deriving Repr, DecidableEq

namespace Layout

open Collateral

/-- The number of bytes that tell the layout. -/
def headerSize : Nat := 8

/-- The type of an SGX enclave. -/
def sgxType : Nat := 0

/-- The type of a TDX trust domain. -/
def tdxType : Nat := 0x81

/-- The little-endian number of `width` bytes at an offset. -/
def numberAt (data : Bytes) (offset width : Nat) : Nat :=
  Bytes.natOfLittleEndian ((data.drop offset).take width)

/-- The layout that the header of a quote names. -/
def detect (quote : Bytes) : Except Failure Layout :=
  if quote.length < headerSize then .error (.truncated headerSize quote.length)
  else
    let version := numberAt quote 0 2
    let type := numberAt quote 4 4
    if version = 3 then .ok v3
    else if version = 4 then
      if type = sgxType then .ok v4Sgx
      else if type = tdxType then .ok v4Tdx
      else .error (.teeType type)
    else .error (.version version)

/-- The offset of the size of the authentication data. -/
def authDataSizeOffset : Layout → Nat
  | v3 => 1012
  | v4Sgx => 1018
  | v4Tdx => 1218

/-- The kind of TCB info that belongs to a quote. -/
def tcbKind : Layout → TcbKind
  | v3 | v4Sgx => .sgx
  | v4Tdx => .tdx

/-- The version of that TCB info. -/
def tcbVersion : Layout → UInt32
  | v3 => 2
  | v4Sgx | v4Tdx => 3

/-- The kind of enclave identity that belongs to a quote. -/
def enclaveKind : Layout → EnclaveKind
  | v3 | v4Sgx => .qe
  | v4Tdx => .tdqe

/-- The version of a quote, which is also that of the enclave identity. -/
def version : Layout → UInt32
  | v3 => 3
  | v4Sgx | v4Tdx => 4

/-- The type of the attested environment. -/
def teeType : Layout → Nat
  | v3 | v4Sgx => sgxType
  | v4Tdx => tdxType

/-- The name of a layout. -/
def name : Layout → String
  | v3 => "v3 sgx"
  | v4Sgx => "v4 sgx"
  | v4Tdx => "v4 tdx"

end Layout

end QuoteProver.Quote
