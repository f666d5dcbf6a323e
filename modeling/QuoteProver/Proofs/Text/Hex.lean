import QuoteProver.Proofs.Except
import QuoteProver.Proofs.Text.Utf8
import QuoteProver.Text.Hex

/-!
# What hexadecimal text denotes

`Denotes` says which bytes a list of digits stands for, and `FaultOf` why some bytes are no such
list, both without the reader.  `decode` gives the bytes that a text denotes, in either case of the
digits and in any mixture (`decode_eq_ok_iff`), and otherwise its fault (`decode_eq_error_iff`).
-/

namespace QuoteProver.Text.Hex

/-! ## Digits -/

def lowerDigits : List Char := "0123456789abcdef".toList

def upperDigits : List Char := "0123456789ABCDEF".toList

/-- The character is the digit of that value, in either case. -/
def IsDigit (c : Char) (value : Nat) : Prop :=
  lowerDigits[value]? = some c ∨ upperDigits[value]? = some c
  deriving Decidable

/-- The bytes for which a list of digits stands: two digits for each, the high one first. -/
inductive Denotes : List Char → Bytes → Prop
  | nil : Denotes [] []
  | cons {high low : Char} {b : UInt8} {text : List Char} {bytes : Bytes} :
      IsDigit high (b.toNat / 16) → IsDigit low (b.toNat % 16) → Denotes text bytes →
      Denotes (high :: low :: text) (b :: bytes)

/-- A byte as the character of the same number. -/
def asChar (b : UInt8) : Char := Char.ofNat b.toNat

/-- The byte stands for a digit. -/
def IsDigitByte (b : UInt8) : Prop := ∃ value, IsDigit (asChar b) value

/-- The first byte that is no digit, of a text that stands at `index`. -/
def StrayFrom (index : Nat) (text : Bytes) (fault : Fault) : Prop :=
  ∃ before b after, text = before ++ b :: after ∧ (∀ d ∈ before, IsDigitByte d) ∧ ¬ IsDigitByte b ∧
    fault = .invalidCharacter (asChar b) (index + before.length)

/-- Why bytes are no list of digits: their number is odd, or else one of them is no digit. -/
inductive FaultOf (text : Bytes) : Fault → Prop
  | odd : text.length % 2 = 1 → FaultOf text .oddLength
  | stray {fault : Fault} : text.length % 2 = 0 → StrayFrom 0 text fault → FaultOf text fault

theorem IsDigit.lt {c : Char} {value : Nat} (h : IsDigit c value) : value < 16 := by
  have small (digits : List Char) (len : digits.length = 16) (found : digits[value]? = some c) :
      value < 16 := by
    rw [← len]
    exact (List.getElem?_eq_some_iff.1 found).1
  exact h.elim (small lowerDigits rfl) (small upperDigits rfl)

theorem IsDigit.ascii {c : Char} {value : Nat} (h : IsDigit c value) : c.toNat < 0x80 := by
  have all : (lowerDigits ++ upperDigits).all fun c => c.toNat < 0x80 := by decide
  have mem : c ∈ lowerDigits ++ upperDigits :=
    List.mem_append.2 (h.imp List.mem_of_getElem? List.mem_of_getElem?)
  simpa using List.all_eq_true.1 all c mem

theorem toNat_asChar (b : UInt8) : (asChar b).toNat = b.toNat := by
  have hb := b.toNat_lt
  exact Utf8.toNat_charOfNat (.inl (by omega))

/-- The reader of digits agrees with the two lists of them. -/
theorem digitValue?_eq_some_iff {b : UInt8} {value : Nat} :
    digitValue? b = some value ↔ IsDigit (asChar b) value := by
  have read : ∀ n < 256, ∀ value ∈ digitValue? (UInt8.ofNat n),
      IsDigit (asChar (UInt8.ofNat n)) value := by decide +kernel
  have listed : ∀ digits ∈ [lowerDigits, upperDigits], ∀ value < 16,
      digits[value]?.map (fun c => digitValue? (UInt8.ofNat c.toNat)) = some (some value) := by
    decide +kernel
  constructor
  · have at_b := read b.toNat b.toNat_lt value
    rwa [UInt8.ofNat_toNat] at at_b
  · intro h
    have at_c (digits : List Char) (mem : digits ∈ [lowerDigits, upperDigits])
        (found : digits[value]? = some (asChar b)) : digitValue? b = some value := by
      have entry := listed digits mem value h.lt
      rw [found, Option.map_some, toNat_asChar, UInt8.ofNat_toNat] at entry
      exact Option.some.inj entry
    exact Or.elim h (at_c lowerDigits (by simp)) (at_c upperDigits (by simp))

theorem IsDigit.unique {c : Char} {value value' : Nat} (h : IsDigit c value) (h' : IsDigit c value') :
    value = value' := by
  have shown : asChar (UInt8.ofNat c.toNat) = c := by
    have ascii := h.ascii
    rw [asChar, Utf8.toNat_ofNat (by omega), Char.ofNat_toNat]
  rw [← shown, ← digitValue?_eq_some_iff] at h h'
  exact Option.some.inj (h.symm.trans h')

theorem digit_eq_ok_iff {b : UInt8} {index value : Nat} :
    digit b index = .ok value ↔ IsDigit (asChar b) value := by
  rw [← digitValue?_eq_some_iff, digit]
  cases digitValue? b <;> simp

theorem digit_eq_error_iff {b : UInt8} {index : Nat} {fault : Fault} :
    digit b index = .error fault ↔
      ¬ IsDigitByte b ∧ fault = .invalidCharacter (asChar b) index := by
  simp only [IsDigitByte, ← digitValue?_eq_some_iff, digit]
  cases digitValue? b <;> simp [asChar, eq_comm]

/-! ## Pairs of digits -/

/-- Two digits are those of a byte if they make up its number. -/
theorem ofNat_digits_eq_iff {h l : Nat} {b : UInt8} (hh : h < 16) (hl : l < 16) :
    UInt8.ofNat (h * 16 + l) = b ↔ h = b.toNat / 16 ∧ l = b.toNat % 16 := by
  have hb := b.toNat_lt
  rw [← UInt8.toNat_inj, UInt8.toNat_ofNat']
  omega

theorem eq_nil_of_even {text : Bytes} (even : text.length % 2 = 0)
    (short : ∀ high low rest, text ≠ high :: low :: rest) : text = [] :=
  match text with
  | [] => rfl
  | [_] => nomatch even
  | high :: low :: rest => absurd rfl (short high low rest)

theorem decodePairs_eq_ok_iff {index : Nat} {text bytes : Bytes} (even : text.length % 2 = 0) :
    decodePairs index text = .ok bytes ↔ Denotes (text.map asChar) bytes := by
  -- Two digits at a time, as the reader goes; without a pair there is nothing at all.
  fun_induction decodePairs index text generalizing bytes with
  | case1 index high low rest ih =>
    have even' : rest.length % 2 = 0 := by
      simp only [List.length_cons] at even
      omega
    simp only [bind_eq_ok_iff, digit_eq_ok_iff, ih even']
    constructor
    · rintro ⟨h, hh, l, hl, bytes, hrest, ⟨⟩⟩
      obtain ⟨high_eq, low_eq⟩ := (ofNat_digits_eq_iff hh.lt hl.lt).1 rfl
      exact .cons (high_eq ▸ hh) (low_eq ▸ hl) hrest
    · rintro (_ | ⟨hh, hl, hrest⟩)
      have pair := (ofNat_digits_eq_iff hh.lt hl.lt).2 ⟨rfl, rfl⟩
      exact ⟨_, hh, _, hl, _, hrest, by rw [pair]; rfl⟩
  | case2 text _ short =>
    obtain rfl : text = [] := eq_nil_of_even even short
    constructor
    · rintro ⟨⟩
      exact .nil
    · rintro ⟨⟩
      rfl

theorem strayFrom_cons_iff {index : Nat} {b : UInt8} {text : Bytes} {fault : Fault} :
    StrayFrom index (b :: text) fault ↔
      (¬ IsDigitByte b ∧ fault = .invalidCharacter (asChar b) index) ∨
        (IsDigitByte b ∧ StrayFrom (index + 1) text fault) := by
  constructor
  · rintro ⟨_ | ⟨b', before⟩, c, after, h, digits, stray, rfl⟩
    · cases h
      exact .inl ⟨stray, rfl⟩
    · cases h
      obtain ⟨first, digits⟩ := List.forall_mem_cons.1 digits
      refine .inr ⟨first, before, c, after, rfl, digits, stray, ?_⟩
      rw [List.length_cons, Nat.add_assoc, Nat.add_comm 1]
  · rintro (⟨stray, rfl⟩ | ⟨first, before, c, after, rfl, digits, stray, rfl⟩)
    · exact ⟨[], b, text, rfl, by simp, stray, rfl⟩
    · refine ⟨b :: before, c, after, rfl, List.forall_mem_cons.2 ⟨first, digits⟩, stray, ?_⟩
      rw [List.length_cons, Nat.add_assoc, Nat.add_comm 1]

theorem decodePairs_eq_error_iff {index : Nat} {text : Bytes} {fault : Fault}
    (even : text.length % 2 = 0) :
    decodePairs index text = .error fault ↔ StrayFrom index text fault := by
  fun_induction decodePairs index text with
  | case1 index high low rest ih =>
    have even' : rest.length % 2 = 0 := by
      simp only [List.length_cons] at even
      omega
    have noError (bytes : Bytes) (b : UInt8) :
        ¬ (pure (b :: bytes) : Except Fault Bytes) = .error fault := nofun
    simp only [strayFrom_cons_iff, bind_eq_error_iff, digit_eq_error_iff, digit_eq_ok_iff, ih even',
      noError, and_false, exists_false, or_false, IsDigitByte, ← exists_and_right]
  | case2 text _ short =>
    obtain rfl : text = [] := eq_nil_of_even even short
    simp [StrayFrom]

/-! ## Texts -/

theorem Denotes.length {text : List Char} {bytes : Bytes} (h : Denotes text bytes) :
    text.length = 2 * bytes.length := by
  induction h with
  | nil => rfl
  | cons _ _ _ ih =>
    simp only [List.length_cons]
    omega

/-- Texts that differ in the case of digits alone. -/
def SameDigits (text text' : List Char) : Prop :=
  List.Forall₂ (fun c c' => c = c' ∨ ∃ value, IsDigit c value ∧ IsDigit c' value) text text'

theorem SameDigits.symm {text text' : List Char} (h : SameDigits text text') :
    SameDigits text' text :=
  List.Forall₂.flip (h.imp fun _ _ same =>
    same.imp Eq.symm fun ⟨value, digit, digit'⟩ => ⟨value, digit', digit⟩)

/-- The case of digits does not matter. -/
theorem Denotes.of_sameDigits {text text' : List Char} {bytes : Bytes} (h : Denotes text bytes)
    (same : SameDigits text text') : Denotes text' bytes := by
  have digit {c c' : Char} {value : Nat} (h : IsDigit c value)
      (same : c = c' ∨ ∃ value, IsDigit c value ∧ IsDigit c' value) : IsDigit c' value := by
    obtain rfl | ⟨value', first, second⟩ := same
    · exact h
    · rwa [h.unique first]
  induction h generalizing text' with
  | nil =>
    cases same
    exact .nil
  | cons high low _ ih =>
    obtain _ | ⟨high', _ | ⟨low', same⟩⟩ := same
    exact .cons (digit high high') (digit low low') (ih same)

/-- No text with an odd number of characters, or with one that is no digit, stands for any bytes. -/
theorem Denotes.digits {text : List Char} {bytes : Bytes} (h : Denotes text bytes) :
    text.length % 2 = 0 ∧ ∀ c ∈ text, ∃ value, IsDigit c value := by
  refine ⟨by rw [h.length, Nat.mul_mod_right], ?_⟩
  induction h with
  | nil => simp
  | cons high low _ ih =>
    exact List.forall_mem_cons.2 ⟨⟨_, high⟩, List.forall_mem_cons.2 ⟨⟨_, low⟩, ih⟩⟩

theorem exists_byte {high low : Nat} (hh : high < 16) (hl : low < 16) :
    ∃ b : UInt8, b.toNat / 16 = high ∧ b.toNat % 16 = low := by
  obtain ⟨high_eq, low_eq⟩ := (ofNat_digits_eq_iff hh hl).1 rfl
  exact ⟨_, high_eq.symm, low_eq.symm⟩

/-- Digits stand for bytes if their number is even. -/
theorem exists_denotes : {digits : List Char} → digits.length % 2 = 0 →
    (∀ c ∈ digits, ∃ value, IsDigit c value) → ∃ bytes, Denotes digits bytes
  | [], _, _ => ⟨[], .nil⟩
  | [_], odd, _ => nomatch odd
  | high :: low :: digits, even, each => by
    obtain ⟨⟨h, hh⟩, ⟨l, hl⟩, each⟩ := by simpa only [List.forall_mem_cons] using each
    have even' : digits.length % 2 = 0 := by
      simp only [List.length_cons] at even
      omega
    obtain ⟨bytes, denotes⟩ := exists_denotes even' each
    obtain ⟨b, rfl, rfl⟩ := exists_byte hh.lt hl.lt
    exact ⟨b :: bytes, .cons hh hl denotes⟩

theorem Denotes.ascii {text : List Char} {bytes : Bytes} (h : Denotes text bytes) :
    ∀ c ∈ text, c.toNat < 0x80 := by
  induction h with
  | nil => simp
  | cons high low _ ih =>
    exact List.forall_mem_cons.2 ⟨high.ascii, List.forall_mem_cons.2 ⟨low.ascii, ih⟩⟩

theorem decodeBytes_eq_ok_iff {text bytes : Bytes} :
    decodeBytes text = .ok bytes ↔ Denotes (text.map asChar) bytes := by
  rw [decodeBytes]
  split
  · rename_i even
    exact decodePairs_eq_ok_iff even
  · rename_i odd
    refine ⟨nofun, fun h => absurd ?_ odd⟩
    have len := h.length
    rw [List.length_map] at len
    omega

theorem decodeBytes_eq_error_iff {text : Bytes} {fault : Fault} :
    decodeBytes text = .error fault ↔ FaultOf text fault := by
  rw [decodeBytes]
  split
  · rename_i even
    rw [decodePairs_eq_error_iff even]
    refine ⟨.stray even, ?_⟩
    rintro (odd | ⟨-, stray⟩)
    · omega
    · exact stray
  · rename_i odd
    constructor
    · rintro ⟨⟩
      exact .odd (by omega)
    · rintro (_ | ⟨even, -⟩)
      · rfl
      · exact absurd even odd

/-- Digits are written in one byte each, and the bytes of other characters are no digits. -/
theorem denotes_encode_iff {text : String} {bytes : Bytes} :
    Denotes ((Utf8.encode text).map asChar) bytes ↔ Denotes text.toList bytes := by
  have same (ascii : ∀ c ∈ text.toList, c.toNat < 0x80) :
      (Utf8.encode text).map asChar = text.toList := by
    rw [Utf8.encode]
    generalize text.toList = chars at ascii
    induction chars with
    | nil => rfl
    | cons c chars ih =>
      obtain ⟨hc, hchars⟩ := List.forall_mem_cons.1 ascii
      have back : asChar (UInt8.ofNat c.toNat) = c := by
        rw [asChar, Utf8.toNat_ofNat (by omega), Char.ofNat_toNat]
      rw [List.flatMap_cons, Utf8.encodeChar_of_ascii hc, List.map_append, ih hchars,
        List.map_singleton, back, List.singleton_append]
  constructor
  · intro h
    have ascii : ∀ c ∈ text.toList, c.toNat < 0x80 := fun c hc => by
      refine Utf8.ascii_of_encodeChar fun b hb => ?_
      have written : b ∈ Utf8.encode text := List.mem_flatMap.2 ⟨c, hc, hb⟩
      rw [← toNat_asChar]
      exact h.ascii (asChar b) (List.mem_map.2 ⟨b, written, rfl⟩)
    rwa [same ascii] at h
  · intro h
    rwa [same h.ascii]

theorem decode_eq_ok_iff {text : String} {bytes : Bytes} :
    decode text = .ok bytes ↔ Denotes text.toList bytes := by
  rw [decode, decodeBytes_eq_ok_iff, denotes_encode_iff]

theorem decode_eq_error_iff {text : String} {fault : Fault} :
    decode text = .error fault ↔ FaultOf (Utf8.encode text) fault :=
  decodeBytes_eq_error_iff

/-! ## What is written -/

theorem lowerDigits_eq : ∀ n < 16, lowerDigits[n]? = some (hexDigit n) := by decide

theorem denotes_encodeChars (bytes : Bytes) : Denotes (encodeChars bytes) bytes := by
  induction bytes with
  | nil => exact .nil
  | cons b bytes ih =>
    have hb := b.toNat_lt
    exact .cons (.inl (lowerDigits_eq _ (by omega))) (.inl (lowerDigits_eq _ (by omega))) ih

theorem mem_lowerDigits_of_mem_encodeChars {c : Char} {bytes : Bytes}
    (h : c ∈ encodeChars bytes) : c ∈ lowerDigits := by
  obtain ⟨b, -, hc⟩ := List.mem_flatMap.1 h
  have hb := b.toNat_lt
  simp only [digits, List.mem_cons, List.not_mem_nil, or_false] at hc
  obtain rfl | rfl := hc <;> exact List.mem_of_getElem? (lowerDigits_eq _ (by omega))

theorem denotes_encode (bytes : Bytes) : Denotes (encode bytes).toList bytes := by
  rw [encode, String.toList_ofList]
  exact denotes_encodeChars bytes

end QuoteProver.Text.Hex
