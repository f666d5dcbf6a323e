import Mathlib.Data.Nat.Digits.Defs
import QuoteProver.Proofs.Bytes
import QuoteProver.Proofs.Crypto.Curve
import QuoteProver.Proofs.Except
import QuoteProver.Proofs.Text.Hex
import QuoteProver.Proofs.Text.Trim
import QuoteProver.Succinct.Account

/-!
# Keys of accounts

A key is written as 64 hexadecimal digits (`Spells`).  An account is made of those texts that spell a
positive number below the order of the curve, and it is that of the number, however this is written;
any other text is refused for the first thing that is wrong with it (`Refused`).
-/

namespace QuoteProver

open Crypto Prover Text

/-! ## Numbers -/

namespace Text.Hex

/-- The number that digits of either case make up, the most significant one first. -/
def Numeral (digits : List Char) (n : Nat) : Prop :=
  ∃ values, List.Forall₂ IsDigit digits values ∧ Nat.ofDigits 16 values.reverse = n

theorem Numeral.unique {digits : List Char} {n n' : Nat} (h : Numeral digits n)
    (h' : Numeral digits n') : n = n' := by
  obtain ⟨values, each, rfl⟩ := h
  obtain ⟨values', each', rfl⟩ := h'
  rw [List.right_unique_forall₂' (fun _ _ _ h h' => h.unique h') each each']

/-- Bytes in digits are written like the number that they make up. -/
theorem Denotes.numeral {digits : List Char} {bytes : Bytes} (h : Denotes digits bytes) :
    Numeral digits (Bytes.natOfBigEndian bytes) := by
  induction h with
  | nil => exact ⟨[], .nil, rfl⟩
  | @cons high low b digits bytes hh hl denotes ih =>
    obtain ⟨values, each, value⟩ := ih
    refine ⟨_, .cons hh (.cons hl each), ?_⟩
    have len : values.length = 2 * bytes.length := by rw [← each.length_eq, denotes.length]
    have place : 16 ^ values.length = 256 ^ bytes.length := by
      rw [len, pow_mul]
      norm_num
    rw [Nat.ofDigits_reverse_cons, Nat.ofDigits_reverse_cons, value, Bytes.natOfBigEndian_cons,
      List.length_cons, pow_succ, place]
    conv_rhs => rw [← Nat.div_add_mod b.toNat 16]
    ring

end Text.Hex

namespace Succinct.Account

/-- The text is a key: 64 digits of either case that make up the number. -/
def Spells (digits : List Char) (k : Nat) : Prop := digits.length = 64 ∧ Hex.Numeral digits k

theorem spells_iff {digits : List Char} {k : Nat} :
    Spells digits k ↔
      ∃ bytes, Hex.Denotes digits bytes ∧ bytes.length = 32 ∧ Bytes.natOfBigEndian bytes = k := by
  constructor
  · -- The digits stand for some bytes, and these make up the same number.
    rintro ⟨len, numeral⟩
    have digit : ∀ c ∈ digits, ∃ value, Hex.IsDigit c value := by
      obtain ⟨values, each, -⟩ := numeral
      intro c mem
      obtain ⟨i, lt, rfl⟩ := List.getElem_of_mem mem
      exact ⟨_, each.get lt (each.length_eq ▸ lt)⟩
    obtain ⟨bytes, denotes⟩ := Hex.exists_denotes (by rw [len]) digit
    have width := denotes.length
    exact ⟨bytes, denotes, by omega, denotes.numeral.unique numeral⟩
  · rintro ⟨bytes, denotes, len, rfl⟩
    exact ⟨by rw [denotes.length, len], denotes.numeral⟩

/-- The text spells the key: white space may stand around the digits, and `0x` in front of them. -/
def KeyText (text : String) (k : Nat) : Prop :=
  ∃ digits, Bare text.toList digits ∧ Spells digits k ∧ 0 < k ∧ k < Secp256k1.order

/-- Why no account is made of a text: it is no hexadecimal text, or else it does not stand for 32 bytes,
or else the number is out of range. -/
inductive Refused (digits : List Char) : Failure → Prop
  | fromHex {fault : Hex.Fault} : Hex.FaultOf (Utf8.encode (String.ofList digits)) fault →
      Refused digits (.fromHex fault)
  | width {bytes : Bytes} : Hex.Denotes digits bytes → bytes.length ≠ 32 →
      Refused digits (.invalidConfig "private key must be 32 bytes")
  | range {k : Nat} : Spells digits k → k = 0 ∨ Secp256k1.order ≤ k →
      Refused digits (.signing .secretKey)

theorem bare_keyDigits (text : String) : Bare text.toList (keyDigits text) :=
  bare_unmark text.toList

theorem ofSecret_eq_ok_iff {k : Nat} {a : Account} :
    ofSecret k = .ok a ↔ 0 < k ∧ k < Secp256k1.order ∧ a.secret = k ∧
      Secp256k1.plain? (k • Secp256k1.base) = some a.publicKey := by
  rw [ofSecret, ← Secp256k1.ofScalar?_eq]
  by_cases inRange : 0 < k ∧ k < Secp256k1.order
  · obtain ⟨point, found⟩ := Secp256k1.exists_ofScalar? inRange.1 inRange.2
    obtain ⟨secret, publicKey⟩ := a
    simp [inRange, found, eq_comm]
  · rw [if_neg (by simpa using inRange)]
    exact ⟨nofun, fun ⟨positive, below, _⟩ => absurd ⟨positive, below⟩ inRange⟩

/-- A number is refused only for being out of range: all others have points. -/
theorem ofSecret_eq_error_iff {k : Nat} {failure : Failure} :
    ofSecret k = .error failure ↔
      (k = 0 ∨ Secp256k1.order ≤ k) ∧ failure = .signing .secretKey := by
  rw [ofSecret]
  by_cases inRange : 0 < k ∧ k < Secp256k1.order
  · obtain ⟨point, found⟩ := Secp256k1.exists_ofScalar? inRange.1 inRange.2
    rw [if_pos (by simpa using inRange), found]
    refine ⟨nofun, fun ⟨out, _⟩ => ?_⟩
    omega
  · rw [if_neg (by simpa using inRange)]
    have out : k = 0 ∨ Secp256k1.order ≤ k := by omega
    simp [out, eq_comm]

/-- The account of a key as bytes. -/
def ofBytes (bytes : Bytes) : Except Failure Account :=
  if bytes.length = 32 then ofSecret (Bytes.natOfBigEndian bytes)
  else .error (.invalidConfig "private key must be 32 bytes")

theorem ofHex_eq (text : String) :
    ofHex text = (Hex.decode (String.ofList (keyDigits text))).mapError .fromHex >>= ofBytes := by
  rw [ofHex]
  refine bind_congr fun bytes => ?_
  rw [ofBytes]
  generalize ofSecret (Bytes.natOfBigEndian bytes) = account
  by_cases width : bytes.length = 32
  · rw [if_neg (not_not_intro width), if_pos width]
  · rw [if_pos width, if_neg width]
    rfl

theorem ofBytes_eq_ok_iff {bytes : Bytes} {a : Account} :
    ofBytes bytes = .ok a ↔ bytes.length = 32 ∧ ofSecret (Bytes.natOfBigEndian bytes) = .ok a := by
  rw [ofBytes]
  split_ifs with width <;> simp [width]

theorem ofHex_eq_ok_iff {text : String} {a : Account} :
    ofHex text = .ok a ↔ ∃ k, Spells (keyDigits text) k ∧ ofSecret k = .ok a := by
  simp only [ofHex_eq, bind_eq_ok_iff, mapError_eq_ok_iff, Hex.decode_eq_ok_iff, String.toList_ofList,
    spells_iff, ofBytes_eq_ok_iff]
  constructor
  · rintro ⟨bytes, denotes, width, made⟩
    exact ⟨_, ⟨bytes, denotes, width, rfl⟩, made⟩
  · rintro ⟨_, ⟨bytes, denotes, width, rfl⟩, made⟩
    exact ⟨bytes, denotes, width, made⟩

theorem ofHex_eq_error_iff {text : String} {failure : Failure} :
    ofHex text = .error failure ↔ Refused (keyDigits text) failure := by
  simp only [ofHex_eq, bind_eq_error_iff, mapError_eq_error_iff, mapError_eq_ok_iff,
    Hex.decode_eq_ok_iff, Hex.decode_eq_error_iff, String.toList_ofList]
  constructor
  · rintro (⟨fault, faulty, rfl⟩ | ⟨bytes, denotes, refused⟩)
    · exact .fromHex faulty
    · rw [ofBytes] at refused
      split_ifs at refused with width
      · obtain ⟨out, rfl⟩ := ofSecret_eq_error_iff.1 refused
        exact .range (spells_iff.2 ⟨bytes, denotes, width, rfl⟩) out
      · cases refused
        exact .width denotes width
  · rintro (faulty | ⟨denotes, width⟩ | ⟨spells, out⟩)
    · exact .inl ⟨_, faulty, rfl⟩
    · exact .inr ⟨_, denotes, if_neg width⟩
    · obtain ⟨bytes, denotes, width, rfl⟩ := spells_iff.1 spells
      refine .inr ⟨bytes, denotes, ?_⟩
      rw [ofBytes, if_pos width]
      exact ofSecret_eq_error_iff.2 ⟨out, rfl⟩

theorem exists_bare_iff {text : String} {P : List Char → Prop} :
    (∃ digits, Bare text.toList digits ∧ P digits) ↔ P (keyDigits text) :=
  ⟨fun ⟨_, bare, holds⟩ => (bare_keyDigits text).unique bare ▸ holds,
    fun holds => ⟨_, bare_keyDigits text, holds⟩⟩

theorem keyText_iff {text : String} {k : Nat} :
    KeyText text k ↔ Spells (keyDigits text) k ∧ 0 < k ∧ k < Secp256k1.order :=
  exists_bare_iff

/-- The account of a key has the number as its secret, and its public key is that multiple of the
generator. -/
theorem ofHex_eq_ok_iff_keyText {text : String} {a : Account} :
    ofHex text = .ok a ↔ KeyText text a.secret ∧
      Secp256k1.plain? (a.secret • Secp256k1.base) = some a.publicKey := by
  simp only [ofHex_eq_ok_iff, ofSecret_eq_ok_iff, keyText_iff]
  constructor
  · rintro ⟨k, spells, positive, below, rfl, point⟩
    exact ⟨⟨spells, positive, below⟩, point⟩
  · rintro ⟨⟨spells, positive, below⟩, point⟩
    exact ⟨_, spells, positive, below, rfl, point⟩

theorem KeyText.exists_ofHex {text : String} {k : Nat} (h : KeyText text k) :
    ∃ point, Secp256k1.plain? (k • Secp256k1.base) = some point ∧
      ofHex text = .ok { secret := k, publicKey := point } := by
  obtain ⟨-, positive, below⟩ := keyText_iff.1 h
  obtain ⟨point, found⟩ := Secp256k1.exists_ofScalar? positive below
  rw [Secp256k1.ofScalar?_eq] at found
  exact ⟨point, found, ofHex_eq_ok_iff_keyText.2 ⟨h, found⟩⟩

/-- An account is made of a text exactly if this spells a key.  The account has the number of the key
as its secret and the multiple of the generator by it as its public key, so all spellings of one key
give one address and one signature of each message.  Any other text is refused: because it is no
hexadecimal text, or else because of its width, or else because of the number. -/
theorem ofHex_takes_spellings :
    (∀ text, (∃ a, ofHex text = .ok a) ↔ ∃ k, KeyText text k) ∧
    (∀ text k, KeyText text k → ∃ a, ofHex text = .ok a ∧ a.secret = k ∧
      Secp256k1.plain? (k • Secp256k1.base) = some a.publicKey) ∧
    (∀ text text' k, KeyText text k → KeyText text' k → ∃ a a', ofHex text = .ok a ∧
      ofHex text' = .ok a' ∧ a.address = a'.address ∧ ∀ m, a.sign m = a'.sign m) ∧
    ∀ text failure, ofHex text = .error failure ↔
      ∃ digits, Bare text.toList digits ∧ Refused digits failure := by
  refine ⟨fun text => ⟨?_, ?_⟩, fun text k h => ?_, fun text text' k h h' => ?_,
    fun text failure => ?_⟩
  · rintro ⟨a, made⟩
    exact ⟨_, (ofHex_eq_ok_iff_keyText.1 made).1⟩
  · rintro ⟨k, h⟩
    obtain ⟨point, -, made⟩ := h.exists_ofHex
    exact ⟨_, made⟩
  · obtain ⟨point, found, made⟩ := h.exists_ofHex
    exact ⟨_, made, rfl, found⟩
  · obtain ⟨point, found, made⟩ := h.exists_ofHex
    obtain ⟨point', found', made'⟩ := h'.exists_ofHex
    cases found.symm.trans found'
    exact ⟨_, _, made, made', rfl, fun _ => rfl⟩
  · rw [ofHex_eq_error_iff, exists_bare_iff]

namespace Sample

def key : Nat := 0x4C0883A69102937D6231471B5DBB6204FE5129617082792AE468D01A3F362318

def plain : String := "4c0883a69102937d6231471b5dbb6204fe5129617082792ae468d01a3f362318"

/-- The same digits in mixed case, behind a mark and between white space. -/
def framed : String := "\t0x4C0883a69102937D6231471B5dbb6204Fe5129617082792aE468d01A3f362318\u3000\n"

theorem keyText {text : String}
    (h : Hex.decode (String.ofList (keyDigits text)) = .ok (Bytes.bigEndian 32 key)) :
    KeyText text key := by
  have denotes := Hex.decode_eq_ok_iff.1 h
  rw [String.toList_ofList] at denotes
  have number : Bytes.natOfBigEndian (Bytes.bigEndian 32 key) = key := by decide +kernel
  exact keyText_iff.2 ⟨spells_iff.2 ⟨_, denotes, rfl, number⟩, by decide, by decide⟩

end Sample

theorem ofHex_takes_spellings_sample :
    ∃ a a', ofHex Sample.plain = .ok a ∧ ofHex Sample.framed = .ok a' ∧ a.address = a'.address ∧
      ∀ m, a.sign m = a'.sign m := by
  obtain ⟨-, -, same, -⟩ := ofHex_takes_spellings
  exact same _ _ Sample.key (Sample.keyText (by decide +kernel)) (Sample.keyText (by decide +kernel))

end Succinct.Account

end QuoteProver
