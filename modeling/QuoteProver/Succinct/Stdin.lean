import QuoteProver.Codec.Format

/-!
# The standard input of a guest program

A `Stdin` holds the buffers that a guest reads in order, the position of its reader and the
proofs that it verifies.
-/

namespace QuoteProver.Succinct

open Codec

/-- The standard input of a guest program. -/
structure Stdin where
  buffer : List Bytes := []
  ptr : UInt64 := 0
  proofs : List UInt32 := []
  deriving Repr, DecidableEq

namespace Stdin

/-- A standard input of one buffer. -/
def ofInput (input : Bytes) : Stdin := { buffer := [input] }

/-- The binary format of a standard input. -/
def format : Format Stdin :=
  (((Format.counted .bytes).field "buffer").and
    ((Format.uint64.field "ptr").and ((Format.counted .uint32).field "proofs"))).map
    (fun (buffer, ptr, proofs) => { buffer, ptr, proofs })
    (fun s => (s.buffer, s.ptr, s.proofs))

end Stdin

end QuoteProver.Succinct
