import QuoteProver.Bytes

/-!
# Keccak-256

`keccak256` absorbs a byte string in blocks of 136 bytes into a state of 25 words, with the
padding that starts with the bit 1, and gives the first 32 bytes of the state.
-/

namespace QuoteProver.Crypto

namespace Keccak

/-- The 25 words of the state; the word in column `x` and row `y` has the index `x + 5 * y`. -/
abbrev State := Vector UInt64 25

/-- A word of the state, with both coordinates modulo five. -/
def State.word (s : State) (x y : Nat) : UInt64 :=
  s.get ⟨x % 5 + 5 * (y % 5), by omega⟩

/-- The state with the word that a function gives for each column and row. -/
def State.ofWords (f : Nat → Nat → UInt64) : State := .ofFn fun i => f (i.val % 5) (i.val / 5)

/-- Rotates a word to the left. -/
def rotate (w : UInt64) (n : Nat) : UInt64 :=
  if n % 64 = 0 then w
  else (w <<< UInt64.ofNat (n % 64)) ||| (w >>> UInt64.ofNat (64 - n % 64))

/-- The rotation of each word, in the order of the indices. -/
def rotations : Vector Nat 25 := #v[
  0, 1, 62, 28, 27,
  36, 44, 6, 55, 20,
  3, 10, 43, 25, 39,
  41, 45, 15, 21, 8,
  18, 2, 61, 56, 14]

/-- The constants of the rounds. -/
def roundConstants : List UInt64 := [
  0x0000000000000001, 0x0000000000008082, 0x800000000000808A, 0x8000000080008000,
  0x000000000000808B, 0x0000000080000001, 0x8000000080008081, 0x8000000000008009,
  0x000000000000008A, 0x0000000000000088, 0x0000000080008009, 0x000000008000000A,
  0x000000008000808B, 0x800000000000008B, 0x8000000000008089, 0x8000000000008003,
  0x8000000000008002, 0x8000000000000080, 0x000000000000800A, 0x800000008000000A,
  0x8000000080008081, 0x8000000000008080, 0x0000000080000001, 0x8000000080008008]

/-- Adds to each word the parities of the columns on both sides. -/
def theta (s : State) : State :=
  let parities : Vector UInt64 5 :=
    .ofFn fun x => s.word x 0 ^^^ s.word x 1 ^^^ s.word x 2 ^^^ s.word x 3 ^^^ s.word x 4
  let parity (x : Nat) : UInt64 := parities.get ⟨x % 5, by omega⟩
  .ofWords fun x y => s.word x y ^^^ parity (x + 4) ^^^ rotate (parity (x + 1)) 1

/-- Rotates the words and moves them to their new places. -/
def rhoPi (s : State) : State :=
  let rotated : State := .ofFn fun i => rotate s[i] rotations[i]
  .ofWords fun x y => rotated.word (x + 3 * y) x

/-- Combines each word with the next two of its row. -/
def chi (s : State) : State :=
  .ofWords fun x y => s.word x y ^^^ (~~~s.word (x + 1) y &&& s.word (x + 2) y)

/-- One round. -/
def round (s : State) (constant : UInt64) : State :=
  let s := chi (rhoPi (theta s))
  s.set 0 (s[0] ^^^ constant)

/-- All rounds. -/
def permute (s : State) : State := roundConstants.foldl round s

/-- The number of bytes in a block. -/
def rate : Nat := 136

/-- Adds a block to the state and permutes it. -/
def absorb (s : State) (block : Bytes) : State :=
  let words : Array UInt64 := .ofFn fun i : Fin 25 =>
    UInt64.ofNat (Bytes.natOfLittleEndian ((block.drop (8 * i)).take 8))
  permute (.ofFn fun i => s[i] ^^^ words.getD i 0)

/-- Absorbs a byte string with its padding. -/
def absorbAll (s : State) (data : Bytes) : State :=
  if data.length < rate then
    let free := rate - data.length
    absorb s (data ++
      if free = 1 then [0x81] else 0x01 :: List.replicate (free - 2) 0 ++ [0x80])
  else absorbAll (absorb s (data.take rate)) (data.drop rate)
termination_by data.length
decreasing_by
  simp only [List.length_drop]
  simp only [rate] at *
  omega

end Keccak

/-- The Keccak-256 digest of a byte string. -/
def keccak256 (data : Bytes) : Bytes :=
  let s := Keccak.absorbAll (Vector.replicate 25 0) data
  Bytes.littleEndian 8 s[0].toNat ++ Bytes.littleEndian 8 s[1].toNat ++
    Bytes.littleEndian 8 s[2].toNat ++ Bytes.littleEndian 8 s[3].toNat

end QuoteProver.Crypto
