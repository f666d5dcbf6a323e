import QuoteProver.Proofs.Quote.Keys
import QuoteProver.Proofs.Text.Pem

/-!
# Chains among other bytes

The certificates of a quote stand in PEM blocks, and quotes may be filled up with other bytes.
`chain_recovers_written` says that these bytes do not matter as long as no hyphen is among them, and
that neither the lines into which a block is broken do.
-/

namespace QuoteProver.Quote

open Der Text

/-- The parts hold the given certificates. -/
def PartsOf (parts : List Pem.Part) (certificates : List Certificate) : Prop :=
  List.Forall₂ (fun p c => Certificate.ofDer p.contents = some c) parts certificates

/-- A chain that is written in blocks is read back in full and in its order, whatever line widths and
line ends the blocks have and whatever stands in front of them, between them and behind them, but for
hyphens.  Without a block, it is the empty chain. -/
theorem chain_recovers_written (front : Bytes) (parts : List Pem.Part)
    (certificates : List Certificate) (valid : PartsOf parts certificates) (first : 0x2D ∉ front)
    (clean : ∀ p ∈ parts, 0x2D ∉ p.after) :
    chain (front ++ Pem.written parts) = .ok certificates := by
  rw [chain, Pem.parseMany_written clean first]
  show (parts.map fun p => (⟨"CERTIFICATE", p.contents⟩ : Pem.Block)).mapM certificateOf = _
  rw [mapM_eq_ok_iff, List.forall₂_map_left_iff]
  refine List.Forall₂.imp (fun p c hc => ?_) valid
  exact certificateOf_eq_ok_iff.2 ⟨rfl, hc⟩

namespace Sample

def platform : Bytes :=
  certificate (name ["Intel SGX PCK Platform CA"]) [extension [[0x00, 0x90, 0x6E]]]

def root : Bytes := certificate (name ["Intel SGX Root CA"]) []

/-- Two certificates in blocks of different layouts, with bytes around them that are no text. -/
def parts : List Pem.Part :=
  [⟨platform, ⟨64, .crlf⟩, [0x0A, 0xFF, 0x20]⟩, ⟨root, ⟨7, .lf⟩, [0x00]⟩]

end Sample

theorem chain_recovers_written_sample :
    ∃ platform root, PartsOf Sample.parts [platform, root] ∧ platform ≠ root ∧
      chain ([0xC3, 0x0D] ++ Pem.written Sample.parts) = .ok [platform, root] := by
  obtain ⟨platform, hp⟩ : ∃ c, Certificate.ofDer Sample.platform = some c :=
    Option.isSome_iff_exists.1 (by decide +kernel)
  obtain ⟨root, hr⟩ : ∃ c, Certificate.ofDer Sample.root = some c :=
    Option.isSome_iff_exists.1 (by decide +kernel)
  have different : Certificate.ofDer Sample.platform ≠ Certificate.ofDer Sample.root := by
    decide +kernel
  have valid : PartsOf Sample.parts [platform, root] := .cons hp (.cons hr .nil)
  refine ⟨platform, root, valid, fun same => different (by rw [hp, hr, same]), ?_⟩
  exact chain_recovers_written _ _ _ valid (by decide) (by decide +kernel)

end QuoteProver.Quote
