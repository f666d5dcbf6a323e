import QuoteProver.Text.Base64
import QuoteProver.Text.Blank
import QuoteProver.Text.Utf8

/-!
# PEM blocks

A PEM block is Base64 data between a `BEGIN` line and an `END` line of the same label.  `captures`
finds the blocks of a byte string and skips what stands around them; `Capture.block` checks one
block and decodes it; `parseMany` does both, so that a single bad block spoils the whole text.
-/

namespace QuoteProver.Text.Pem

/-- Why a block is none. -/
inductive Fault where
  | mismatchedTags (begins ends : String)
  | missingBeginTag
  | missingEndTag
  | invalidHeader (line : String)
  | invalidData
  | notUtf8
  deriving Repr, DecidableEq

/-- The wording of a fault. -/
def Fault.message : Fault → String
  | mismatchedTags begins ends =>
    "mismatching BEGIN (\"" ++ begins ++ "\") and END (\"" ++ ends ++ "\") tags"
  | missingBeginTag => "missing BEGIN tag"
  | missingEndTag => "missing END tag"
  | invalidHeader line => "invalid header: " ++ line
  | invalidData => "invalid data"
  | notUtf8 => "invalid utf-8 value"

/-! ## Markers -/

/-- The sign in front of a label at the start of a block. -/
def beginMarker : Bytes := Bytes.ofAscii "-----BEGIN "

/-- The sign in front of a label at the end of a block. -/
def endMarker : Bytes := Bytes.ofAscii "-----END "

/-- What follows a label. -/
def labelEnd : Bytes := Bytes.ofAscii "-----"

/-- What follows the marker of which `pending` is still to be seen.  After a byte that does not
fit, the whole marker is awaited again from the next byte on. -/
def seek (marker : Bytes) : (pending : Bytes) → Bytes → Option Bytes
  | _, [] => none
  | [], b :: rest => some (b :: rest)
  | m :: ms, b :: rest =>
    if b = m then if ms.isEmpty then some rest else seek marker ms rest
    else seek marker marker rest

theorem seek_length_le {marker pending data rest : Bytes}
    (h : seek marker pending data = some rest) : rest.length ≤ data.length := by
  induction data generalizing pending with
  | nil => simp [seek] at h
  | cons b data ih =>
    unfold seek at h
    split at h
    · cases h
    · rename_i heq
      cases heq
      cases h
      simp
    · rename_i heq
      cases heq
      split at h
      · split at h
        · cases h; simp
        · have := ih h; simp; omega
      · have := ih h; simp; omega

theorem seek_length_lt {marker data rest : Bytes} {m : UInt8} {ms : Bytes}
    (h : seek marker (m :: ms) data = some rest) : rest.length < data.length := by
  cases data with
  | nil => simp [seek] at h
  | cons b data =>
    simp only [seek] at h
    split at h
    · split at h
      · cases h; simp
      · have := seek_length_le h; simp; omega
    · have := seek_length_le h; simp; omega

/-- The bytes in front of a marker and those behind it. -/
def cutAt (marker data : Bytes) : Option (Bytes × Bytes) :=
  (seek marker marker data).map fun rest =>
    (data.take (data.length - rest.length - marker.length), rest)

theorem cutAt_length_le {marker data front rest : Bytes}
    (h : cutAt marker data = some (front, rest)) : rest.length ≤ data.length := by
  unfold cutAt at h
  obtain ⟨r, hr, heq⟩ := Option.map_eq_some_iff.1 h
  cases heq
  exact seek_length_le hr

theorem cutAt_length_lt {m : UInt8} {ms data front rest : Bytes}
    (h : cutAt (m :: ms) data = some (front, rest)) : rest.length < data.length := by
  unfold cutAt at h
  obtain ⟨r, hr, heq⟩ := Option.map_eq_some_iff.1 h
  cases heq
  exact seek_length_lt hr

/-! ## Blocks -/

/-- The parts of a block as they stand in the text. -/
structure Capture where
  begins : Bytes
  headers : Bytes
  data : Bytes
  ends : Bytes
  deriving Repr, DecidableEq

/-- Whether a byte is skipped behind a marker. -/
def isSpace (b : UInt8) : Bool := b = 0x20 || b = 0x09 || b = 0x0A || b = 0x0D

theorem length_dropWhile_le {α : Type} (p : α → Bool) (xs : List α) :
    (xs.dropWhile p).length ≤ xs.length := (List.dropWhile_sublist p).length_le

/-- The header lines of a block, which an empty line separates from the data. -/
def splitHeaders (payload : Bytes) : Bytes × Bytes :=
  match cutAt (Bytes.ofAscii "\n\n") payload with
  | some parts => parts
  | none => match cutAt (Bytes.ofAscii "\r\n\r\n") payload with
    | some parts => parts
    | none => ([], payload)

/-- The first block of a byte string and what follows it. -/
def capture (data : Bytes) : Option (Capture × Bytes) := do
  let (_, data) ← cutAt beginMarker data
  let (begins, data) ← cutAt labelEnd data
  let (payload, data) ← cutAt endMarker (data.dropWhile isSpace)
  let (ends, data) ← cutAt labelEnd data
  let (headers, contents) := splitHeaders payload
  return ({ begins, headers, data := contents, ends }, data.dropWhile isSpace)

theorem capture_length_lt {data rest : Bytes} {c : Capture}
    (h : capture data = some (c, rest)) : rest.length < data.length := by
  simp only [capture, Option.bind_eq_bind, Option.bind_eq_some_iff, Prod.exists] at h
  obtain ⟨_, d₁, h₁, _, d₂, h₂, _, d₃, h₃, _, d₄, h₄, heq⟩ := h
  cases heq
  have l₁ := cutAt_length_lt (m := 0x2D) h₁
  have l₂ := cutAt_length_le h₂
  have l₃ := cutAt_length_le h₃
  have l₃' := length_dropWhile_le isSpace d₂
  have l₄ := cutAt_length_le h₄
  have l₅ := length_dropWhile_le isSpace d₄
  omega

/-- The blocks of a byte string. -/
def captures (data : Bytes) : List Capture :=
  match h : capture data with
  | none => []
  | some (c, rest) =>
    have := capture_length_lt h
    c :: captures rest
termination_by data.length

/-- A decoded block. -/
structure Block where
  label : String
  contents : Bytes
  deriving Repr, DecidableEq

/-- The text of a byte string. -/
def asText (bytes : Bytes) : Except Fault (List Char) :=
  (Utf8.decode bytes).mapError fun _ => .notUtf8

/-- The lines of a text without their ends. -/
def textLines (line : List Char) : List Char → List (List Char)
  | [] => if line.isEmpty then [] else [line.reverse]
  | '\n' :: rest =>
    (match line with | '\r' :: line => line.reverse | line => line.reverse) :: textLines [] rest
  | c :: rest => textLines (c :: line) rest

/-- The first line without a colon. -/
def badHeader? (headers : List Char) : Option (List Char) :=
  (textLines [] headers).find? fun line => ':' ∉ line

namespace Capture

/-- Checks a block and decodes its data. -/
def block (c : Capture) : Except Fault Block := do
  let begins ← asText c.begins
  if begins.isEmpty then throw .missingBeginTag
  let ends ← asText c.ends
  if ends.isEmpty then throw .missingEndTag
  if begins ≠ ends then throw (.mismatchedTags (String.ofList begins) (String.ofList ends))
  let data ← asText c.data
  let contents ← match Base64.decode (data.filter (!isBlank ·)) with
    | some contents => pure contents
    | none => throw .invalidData
  match badHeader? (← asText c.headers) with
  | some line => throw (.invalidHeader (String.ofList line))
  | none => return { label := String.ofList begins, contents }

end Capture

/-- The decoded blocks of a byte string. -/
def parseMany (data : Bytes) : Except Fault (List Block) :=
  (captures data).mapM Capture.block

end QuoteProver.Text.Pem
