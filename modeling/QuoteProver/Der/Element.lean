import QuoteProver.Bytes

/-!
# DER elements

An `Element` is a tag byte with its contents.  `Element.encode` writes the tag, the length in its
shortest form and the contents; `Element.read` takes an element from the front of a byte string.
`elements` splits a byte string that is a run of complete elements.  These are the rules for loose
objects, such as the entries of an extension; structures have further ones (`Reader.any`).
-/

namespace QuoteProver.Der

/-- A tag with its contents. -/
structure Element where
  tag : UInt8
  contents : Bytes
  deriving Repr, DecidableEq

/-- The tag of sequences. -/
def sequenceTag : UInt8 := 0x30

/-- The octets of a number, the most significant one first, without leading zeros. -/
def octets (n : Nat) : Bytes :=
  if n = 0 then [] else octets (n / 256) ++ [UInt8.ofNat n]

/-- The shortest form of a length. -/
def encodeLength (n : Nat) : Bytes :=
  if n < 128 then [UInt8.ofNat n]
  else UInt8.ofNat (128 + (octets n).length) :: octets n

/-- Reads a length of at most eight octets in its shortest form. -/
def readLength : Bytes → Option (Nat × Bytes)
  | [] => none
  | b :: rest =>
    if b < 0x80 then some (b.toNat, rest)
    else
      let width := b.toNat - 128
      if width = 0 || 8 < width || rest.length < width then none
      else
        let n := Bytes.natOfBigEndian (rest.take width)
        if encodeLength n = b :: rest.take width then some (n, rest.drop width) else none

namespace Element

/-- The octets of an element: tag, length and contents. -/
def encode (e : Element) : Bytes := e.tag :: encodeLength e.contents.length ++ e.contents

/-- Takes an element from the front. -/
def read : Bytes → Option (Element × Bytes)
  | [] => none
  | tag :: rest =>
    match readLength rest with
    | none => none
    | some (n, rest) =>
      if rest.length < n then none
      else some ({ tag, contents := rest.take n }, rest.drop n)

end Element

theorem length_of_readLength {data rest : Bytes} {n : Nat}
    (h : readLength data = some (n, rest)) : rest.length < data.length := by
  cases data with
  | nil => simp [readLength] at h
  | cons b data =>
    unfold readLength at h
    dsimp only at h
    split at h
    · simp only [Option.some.injEq, Prod.mk.injEq] at h
      simp [← h.2]
    · split at h
      · cases h
      · split at h
        · simp only [Option.some.injEq, Prod.mk.injEq] at h
          simp only [← h.2, List.length_drop, List.length_cons]
          omega
        · cases h

theorem Element.length_of_read {data rest : Bytes} {e : Element}
    (h : Element.read data = some (e, rest)) : rest.length < data.length := by
  cases data with
  | nil => simp [Element.read] at h
  | cons b data =>
    simp only [Element.read] at h
    split at h
    · cases h
    · rename_i n tail hn
      have := length_of_readLength hn
      split at h
      · cases h
      · cases h
        simp only [List.length_drop, List.length_cons]
        omega

/-- The elements of a byte string that is a run of complete ones. -/
def elements (data : Bytes) : Option (List Element) :=
  match data with
  | [] => some []
  | b :: tail =>
    match h : Element.read (b :: tail) with
    | none => none
    | some (e, rest) =>
      have := Element.length_of_read h
      (elements rest).map (e :: ·)
termination_by data.length
decreasing_by assumption

end QuoteProver.Der
