/-!
# Proof systems

A `ProofSystem` names the machine that a guest is proven on.  `code` is its number on chain,
`name` its spelling in records and `ofText` accepts the names by which users call it.
-/

namespace QuoteProver.Prover

/-- The machine that a guest is proven on. -/
inductive ProofSystem where
  | risc0
  | succinct
  deriving Repr, DecidableEq

namespace ProofSystem

/-- All proof systems. -/
def all : List ProofSystem := [risc0, succinct]

/-- The number of a proof system on chain. -/
def code : ProofSystem → UInt8
  | risc0 => 1
  | succinct => 2

/-- The spelling of a proof system. -/
def name : ProofSystem → String
  | risc0 => "risc0"
  | succinct => "succinct"

/-- A text with its ASCII letters in lower case. -/
def lowerAscii (text : String) : String := text.map Char.toLower

/-- The proof system that a text names in letters of either case, or the wording of the
refusal. -/
def ofText (text : String) : Except String ProofSystem :=
  let lower := lowerAscii text
  if lower ∈ ["risc0", "risczero", "bonsai", "1"] then .ok risc0
  else if lower ∈ ["succinct", "sp1", "2"] then .ok succinct
  else .error ("unknown zk type `" ++ lower ++ "`, expected risc0 or succinct")

end ProofSystem

end QuoteProver.Prover
