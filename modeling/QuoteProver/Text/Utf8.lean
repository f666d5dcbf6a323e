import QuoteProver.Bytes

/-!
# UTF-8

`head` reads the first character of a byte string, or says how many bytes cannot belong to one.
`decode` reads a whole text and reports the first fault with the number of bytes in front of it;
`decodeLossy` puts the replacement character in the place of each fault.  `encode` writes a text.
-/

namespace QuoteProver.Text.Utf8

/-- Whether a byte can stand inside a character, after its first byte. -/
def isContinuation (b : UInt8) : Bool := 0x80 ≤ b && b ≤ 0xBF

/-- What a non-empty byte string begins with: a character, bytes that begin none, or the
beginning of one that is cut off by the end. -/
inductive Head where
  | char (c : Char) (rest : Bytes)
  | invalid (length : Nat)
  | incomplete
  deriving Repr

/-- The six low bits of a continuation byte. -/
def low (b : UInt8) : Nat := b.toNat % 64

/-- The second bytes that may follow a given first byte of a longer character: the shortest
form is required, surrogates and numbers above `0x10FFFF` are excluded. -/
def mayFollow (b second : UInt8) : Bool :=
  if b = 0xE0 then 0xA0 ≤ second && second ≤ 0xBF
  else if b = 0xED then 0x80 ≤ second && second ≤ 0x9F
  else if b = 0xF0 then 0x90 ≤ second && second ≤ 0xBF
  else if b = 0xF4 then 0x80 ≤ second && second ≤ 0x8F
  else isContinuation second

/-- Reads the first character of `b :: rest`. -/
def head (b : UInt8) (rest : Bytes) : Head :=
  if b < 0x80 then .char (Char.ofNat b.toNat) rest
  else if b < 0xC2 || 0xF4 < b then .invalid 1
  else match rest with
    | [] => .incomplete
    | b₂ :: rest₂ =>
      if !mayFollow b b₂ then .invalid 1
      else if b < 0xE0 then .char (Char.ofNat (b.toNat % 32 * 64 + low b₂)) rest₂
      else match rest₂ with
        | [] => .incomplete
        | b₃ :: rest₃ =>
          if !isContinuation b₃ then .invalid 2
          else if b < 0xF0 then
            .char (Char.ofNat (b.toNat % 16 * 4096 + low b₂ * 64 + low b₃)) rest₃
          else match rest₃ with
            | [] => .incomplete
            | b₄ :: rest₄ =>
              if !isContinuation b₄ then .invalid 3
              else .char (Char.ofNat
                (b.toNat % 8 * 262144 + low b₂ * 4096 + low b₃ * 64 + low b₄)) rest₄

theorem head_length_le {b : UInt8} {rest : Bytes} {c : Char} {after : Bytes}
    (h : head b rest = .char c after) : after.length ≤ rest.length := by
  unfold head at h
  split at h
  · cases h; exact Nat.le_refl _
  · split at h
    · cases h
    · split at h
      · cases h
      · split at h
        · cases h
        · split at h
          · cases h; simp
          · split at h
            · cases h
            · split at h
              · cases h
              · split at h
                · cases h; simp; omega
                · split at h
                  · cases h
                  · split at h
                    · cases h
                    · cases h; simp; omega

/-- Why a byte string is no text: the length of the longest prefix that is one, and the number
of bytes after it that begin no character (`none` if the end cuts a character off). -/
structure Fault where
  validUpTo : Nat
  errorLength : Option Nat
  deriving Repr, DecidableEq

/-- The wording of a fault. -/
def Fault.message (fault : Fault) : String :=
  match fault.errorLength with
  | some n => s!"invalid utf-8 sequence of {n} bytes from index {fault.validUpTo}"
  | none => s!"incomplete utf-8 byte sequence from index {fault.validUpTo}"

/-- Reads the characters of a byte string that stands `position` bytes after the start of the
text. -/
def decodeFrom (position : Nat) (bytes : Bytes) : Except Fault (List Char) :=
  match bytes with
  | [] => .ok []
  | b :: rest =>
    match h : head b rest with
    | .char c after =>
      have := head_length_le h
      (decodeFrom (position + (rest.length + 1 - after.length)) after).map (c :: ·)
    | .invalid n => .error ⟨position, some n⟩
    | .incomplete => .error ⟨position, none⟩
termination_by bytes.length

/-- The characters that a byte string encodes. -/
def decode (bytes : Bytes) : Except Fault (List Char) := decodeFrom 0 bytes

/-- The text that a byte string encodes, if it encodes one. -/
def decode? (bytes : Bytes) : Option String := (decode bytes).toOption.map String.ofList

/-- The characters of a byte string, with the replacement character for each run of bytes that
begins none. -/
def decodeLossyChars (bytes : Bytes) : List Char :=
  match bytes with
  | [] => []
  | b :: rest =>
    match h : head b rest with
    | .char c after =>
      have := head_length_le h
      c :: decodeLossyChars after
    | .invalid n => Char.ofNat 0xFFFD :: decodeLossyChars (rest.drop (n - 1))
    | .incomplete => [Char.ofNat 0xFFFD]
termination_by bytes.length
decreasing_by
  · simp only [List.length_cons]; omega
  · simp only [List.length_cons, List.length_drop]; omega

/-- The text of a byte string, with the replacement character for what is no text. -/
def decodeLossy (bytes : Bytes) : String := String.ofList (decodeLossyChars bytes)

/-- The bytes of a character. -/
def encodeChar (c : Char) : Bytes :=
  let n := c.toNat
  if n < 0x80 then [UInt8.ofNat n]
  else if n < 0x800 then [UInt8.ofNat (0xC0 + n / 64), UInt8.ofNat (0x80 + n % 64)]
  else if n < 0x10000 then
    [UInt8.ofNat (0xE0 + n / 4096), UInt8.ofNat (0x80 + n / 64 % 64), UInt8.ofNat (0x80 + n % 64)]
  else
    [UInt8.ofNat (0xF0 + n / 262144), UInt8.ofNat (0x80 + n / 4096 % 64),
      UInt8.ofNat (0x80 + n / 64 % 64), UInt8.ofNat (0x80 + n % 64)]

/-- The bytes of a text. -/
def encode (text : String) : Bytes := text.toList.flatMap encodeChar

end QuoteProver.Text.Utf8
