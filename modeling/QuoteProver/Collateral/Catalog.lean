import QuoteProver.Json.Document

/-!
# Catalogue of collateral

The authorities, kinds of TCB info and kinds of enclave identity that collateral is filed under,
with the number, the spelling in records and the label in messages of each.
-/

namespace QuoteProver.Collateral

/-- A certificate authority of the platform vendor. -/
inductive Authority where
  | root
  | processor
  | platform
  | signing
  deriving Repr, DecidableEq

/-- The kind of a TCB info. -/
inductive TcbKind where
  | sgx
  | tdx
  deriving Repr, DecidableEq

/-- The kind of an enclave identity. -/
inductive EnclaveKind where
  | qe
  | qve
  | tdqe
  deriving Repr, DecidableEq

namespace Authority

/-- All authorities. -/
def all : List Authority := [root, processor, platform, signing]

/-- The number of an authority in the catalog. -/
def code : Authority → Nat
  | root => 0
  | processor => 1
  | platform => 2
  | signing => 3

/-- The spelling of an authority in records. -/
def name : Authority → String
  | root => "root"
  | processor => "processor"
  | platform => "platform"
  | signing => "signing"

/-- The label of an authority: its name with a capital letter and its number. -/
def label (a : Authority) : String := s!"{a.name.capitalize}({a.code})"

end Authority

namespace TcbKind

/-- All kinds. -/
def all : List TcbKind := [sgx, tdx]

/-- The number of a kind in the catalog. -/
def code : TcbKind → Nat
  | sgx => 0
  | tdx => 1

/-- The spelling of a kind in records. -/
def name : TcbKind → String
  | sgx => "sgx"
  | tdx => "tdx"

/-- The label of a kind: its name with a capital letter and its number. -/
def label (k : TcbKind) : String := s!"{k.name.capitalize}({k.code})"

end TcbKind

namespace EnclaveKind

/-- All kinds. -/
def all : List EnclaveKind := [qe, qve, tdqe]

/-- The number of a kind in the catalog. -/
def code : EnclaveKind → Nat
  | qe => 0
  | qve => 1
  | tdqe => 2

/-- The spelling of a kind in records. -/
def name : EnclaveKind → String
  | qe => "qe"
  | qve => "qve"
  | tdqe => "tdqe"

/-- The label of a kind: its name with a capital letter and its number. -/
def label (k : EnclaveKind) : String := s!"{k.name.capitalize}({k.code})"

end EnclaveKind

/-- What the collateral of a quote is filed under. -/
structure Keys where
  /-- The hexadecimal identifier of the platform. -/
  fmspc : String
  /-- The authority that issued the certificate of the platform. -/
  authority : Authority
  tcbKind : TcbKind
  tcbVersion : UInt32
  enclaveKind : EnclaveKind
  enclaveVersion : UInt32
  deriving Repr, DecidableEq

/-- The JSON record of the keys. -/
def Keys.document (k : Keys) : Json.Document :=
  .object [("fmspc", .string k.fmspc), ("pck_ca", .string k.authority.name),
    ("tcb_type", .string k.tcbKind.name), ("tcb_version", .number k.tcbVersion.toNat),
    ("enclave_id_type", .string k.enclaveKind.name),
    ("enclave_id_version", .number k.enclaveVersion.toNat)]

end QuoteProver.Collateral
