import Mathlib.Tactic.SplitIfs
import QuoteProver.Text.Utf8

/-!
# Reading written text

`head` undoes `encodeChar` (`head_encodeChar`), one lemma for each number of bytes, and so `decode`
undoes `encode` (`decode_encode`).  What `head` reads it has read from the bytes of that character
(`encodeChar_of_head`), and so `decode` accepts no other spelling of a text (`decode_eq_ok_iff`).
-/

namespace QuoteProver.Text.Utf8

/-! ## Bytes by their numbers -/

theorem isContinuation_iff (b : UInt8) : isContinuation b = true ↔ 0x80 ≤ b.toNat ∧ b.toNat ≤ 0xBF := by
  simp [isContinuation, UInt8.le_iff_toNat_le]

theorem mayFollow_iff (b second : UInt8) :
    mayFollow b second = true ↔
      (0x80 ≤ second.toNat ∧ second.toNat ≤ 0xBF) ∧
      (b.toNat = 0xE0 → 0xA0 ≤ second.toNat) ∧ (b.toNat = 0xED → second.toNat ≤ 0x9F) ∧
      (b.toNat = 0xF0 → 0x90 ≤ second.toNat) ∧ (b.toNat = 0xF4 → second.toNat ≤ 0x8F) := by
  simp only [mayFollow, ← UInt8.toNat_inj, UInt8.reduceToNat]
  split_ifs <;>
    simp only [Bool.and_eq_true, decide_eq_true_eq, UInt8.le_iff_toNat_le, UInt8.reduceToNat,
      isContinuation_iff] <;>
    omega

theorem toNat_ofNat {n : Nat} (h : n < 256) : (UInt8.ofNat n).toNat = n := by
  simp only [UInt8.toNat_ofNat']
  omega

/-! ## The first character -/

theorem head_of_one {b : UInt8} (rest : Bytes) (h : b.toNat < 0x80) :
    head b rest = .char (Char.ofNat b.toNat) rest := by
  have h1 : b < 0x80 := UInt8.lt_iff_toNat_lt.2 h
  unfold head
  rw [if_pos h1]

/-- A byte that begins a longer character stands in neither of the first two branches. -/
theorem not_single {b : UInt8} (hlo : 0xC2 ≤ b.toNat) (hhi : b.toNat ≤ 0xF4) :
    ¬ b < 0x80 ∧ ¬ (decide (b < 0xC2) || decide (0xF4 < b)) = true := by
  simp only [Bool.or_eq_true, decide_eq_true_eq, UInt8.lt_iff_toNat_lt, UInt8.reduceToNat]
  omega

theorem head_of_two {b b₂ : UInt8} (rest : Bytes) (hlo : 0xC2 ≤ b.toNat) (hhi : b.toNat < 0xE0)
    (h₂ : 0x80 ≤ b₂.toNat ∧ b₂.toNat ≤ 0xBF) :
    head b (b₂ :: rest) = .char (Char.ofNat (b.toNat % 32 * 64 + b₂.toNat % 64)) rest := by
  obtain ⟨h1, h2⟩ := not_single hlo (by omega)
  have hf : mayFollow b b₂ = true := (mayFollow_iff b b₂).2 (by omega)
  have he : b < 0xE0 := UInt8.lt_iff_toNat_lt.2 hhi
  unfold head
  rw [if_neg h1, if_neg h2]
  simp only [hf, Bool.not_true, Bool.false_eq_true, if_false, if_pos he]
  rfl

theorem head_of_three {b b₂ b₃ : UInt8} (rest : Bytes) (hlo : 0xE0 ≤ b.toNat)
    (hhi : b.toNat < 0xF0) (h₂ : mayFollow b b₂ = true) (h₃ : isContinuation b₃ = true) :
    head b (b₂ :: b₃ :: rest) =
      .char (Char.ofNat (b.toNat % 16 * 4096 + b₂.toNat % 64 * 64 + b₃.toNat % 64)) rest := by
  obtain ⟨h1, h2⟩ := not_single (b := b) (by omega) (by omega)
  have he : ¬ b < 0xE0 := fun h => by
    have : b.toNat < 0xE0 := UInt8.lt_iff_toNat_lt.1 h
    omega
  have hf : b < 0xF0 := UInt8.lt_iff_toNat_lt.2 hhi
  unfold head
  rw [if_neg h1, if_neg h2]
  simp only [h₂, h₃, Bool.not_true, Bool.false_eq_true, if_false, if_neg he, if_pos hf]
  rfl

theorem head_of_four {b b₂ b₃ b₄ : UInt8} (rest : Bytes) (hlo : 0xF0 ≤ b.toNat)
    (hhi : b.toNat ≤ 0xF4) (h₂ : mayFollow b b₂ = true) (h₃ : isContinuation b₃ = true)
    (h₄ : isContinuation b₄ = true) :
    head b (b₂ :: b₃ :: b₄ :: rest) =
      .char (Char.ofNat (b.toNat % 8 * 262144 + b₂.toNat % 64 * 4096 + b₃.toNat % 64 * 64 +
        b₄.toNat % 64)) rest := by
  obtain ⟨h1, h2⟩ := not_single (b := b) (by omega) (by omega)
  have he : ¬ b < 0xE0 := fun h => by
    have : b.toNat < 0xE0 := UInt8.lt_iff_toNat_lt.1 h
    omega
  have hf : ¬ b < 0xF0 := fun h => by
    have : b.toNat < 0xF0 := UInt8.lt_iff_toNat_lt.1 h
    omega
  unfold head
  rw [if_neg h1, if_neg h2]
  simp only [h₂, h₃, h₄, Bool.not_true, Bool.false_eq_true, if_false, if_neg he, if_neg hf]
  rfl

/-- The bytes of a character are read as that character, whatever follows them. -/
theorem head_encodeChar (c : Char) (rest : Bytes) :
    ∃ b tail, encodeChar c = b :: tail ∧ head b (tail ++ rest) = .char c rest := by
  have hc : c.toNat < 0xD800 ∨ 0xDFFF < c.toNat ∧ c.toNat < 0x110000 := c.valid
  have char_eq {n : Nat} (h : n = c.toNat) : Char.ofNat n = c := by rw [h, Char.ofNat_toNat]
  unfold encodeChar
  generalize c.toNat = n at hc char_eq
  dsimp only
  have tail₁ := toNat_ofNat (n := 0x80 + n % 64) (by omega)
  have tail₂ := toNat_ofNat (n := 0x80 + n / 64 % 64) (by omega)
  have tail₃ := toNat_ofNat (n := 0x80 + n / 4096 % 64) (by omega)
  split_ifs with h1 h2 h3
  · refine ⟨_, _, rfl, ?_⟩
    have lead := toNat_ofNat (n := n) (by omega)
    rw [List.nil_append, head_of_one rest (by omega), lead, char_eq rfl]
  · refine ⟨_, _, rfl, ?_⟩
    have lead := toNat_ofNat (n := 0xC0 + n / 64) (by omega)
    rw [List.cons_append, List.nil_append, head_of_two rest (by omega) (by omega) (by omega), lead,
      tail₁, char_eq (by omega)]
  · refine ⟨_, _, rfl, ?_⟩
    have lead := toNat_ofNat (n := 0xE0 + n / 4096) (by omega)
    rw [List.cons_append, List.cons_append, List.nil_append,
      head_of_three rest (by omega) (by omega) ((mayFollow_iff _ _).2 (by omega))
        ((isContinuation_iff _).2 (by omega)), lead, tail₁, tail₂, char_eq (by omega)]
  · refine ⟨_, _, rfl, ?_⟩
    have lead := toNat_ofNat (n := 0xF0 + n / 262144) (by omega)
    rw [List.cons_append, List.cons_append, List.cons_append, List.nil_append,
      head_of_four rest (by omega) (by omega) ((mayFollow_iff _ _).2 (by omega))
        ((isContinuation_iff _).2 (by omega)) ((isContinuation_iff _).2 (by omega)), lead, tail₁,
      tail₂, tail₃, char_eq (by omega)]

/-! ## Whole texts -/

theorem decodeFrom_flatMap_encodeChar (chars : List Char) :
    ∀ position, decodeFrom position (chars.flatMap encodeChar) = .ok chars := by
  induction chars with
  | nil => intro position; rw [List.flatMap_nil, decodeFrom]
  | cons c chars ih =>
    intro position
    obtain ⟨b, tail, hb, hhead⟩ := head_encodeChar c (chars.flatMap encodeChar)
    rw [List.flatMap_cons, hb, List.cons_append, decodeFrom]
    split
    · rename_i c' after h
      rw [hhead] at h
      cases h
      rw [ih]
      rfl
    · rename_i h
      rw [hhead] at h
      cases h
    · rename_i h
      rw [hhead] at h
      cases h

/-- A written text is read back. -/
theorem decode_encode (text : String) : decode (encode text) = .ok text.toList :=
  decodeFrom_flatMap_encodeChar text.toList 0

theorem encode_injective : Function.Injective encode := fun s t same => by
  have chars : (.ok s.toList : Except Fault (List Char)) = .ok t.toList := by
    rw [← decode_encode, ← decode_encode, same]
  exact String.toList_inj.1 (Except.ok.inj chars)

/-! ## Only written characters are read -/

theorem toNat_charOfNat {n : Nat} (h : n.isValidChar) : (Char.ofNat n).toNat = n := by
  rw [Char.ofNat, dif_pos h]
  rfl

theorem ofNat_eq {n : Nat} {b : UInt8} (h : n = b.toNat) : UInt8.ofNat n = b := by
  rw [h, UInt8.ofNat_toNat]

theorem encodeChar_one {b : UInt8} (h : b.toNat < 0x80) : encodeChar (Char.ofNat b.toNat) = [b] := by
  rw [encodeChar, toNat_charOfNat (.inl (by omega))]
  rw [if_pos h, ofNat_eq rfl]

theorem encodeChar_two {b b₂ : UInt8} (hlo : 0xC2 ≤ b.toNat) (hhi : b.toNat < 0xE0)
    (h₂ : 0x80 ≤ b₂.toNat ∧ b₂.toNat ≤ 0xBF) :
    encodeChar (Char.ofNat (b.toNat % 32 * 64 + b₂.toNat % 64)) = [b, b₂] := by
  rw [encodeChar, toNat_charOfNat (.inl (by omega))]
  rw [if_neg (by omega), if_pos (by omega), ofNat_eq (b := b) (by omega),
    ofNat_eq (b := b₂) (by omega)]

theorem encodeChar_three {b b₂ b₃ : UInt8} (hlo : 0xE0 ≤ b.toNat) (hhi : b.toNat < 0xF0)
    (h₂ : mayFollow b b₂ = true) (h₃ : isContinuation b₃ = true) :
    encodeChar (Char.ofNat (b.toNat % 16 * 4096 + b₂.toNat % 64 * 64 + b₃.toNat % 64)) =
      [b, b₂, b₃] := by
  obtain ⟨hc₂, hE0, hED, -, -⟩ := (mayFollow_iff b b₂).1 h₂
  have hc₃ := (isContinuation_iff b₃).1 h₃
  have valid : (b.toNat % 16 * 4096 + b₂.toNat % 64 * 64 + b₃.toNat % 64).isValidChar := by
    unfold Nat.isValidChar
    omega
  rw [encodeChar, toNat_charOfNat valid]
  rw [if_neg (by omega), if_neg (by omega), if_pos (by omega), ofNat_eq (b := b) (by omega),
    ofNat_eq (b := b₂) (by omega), ofNat_eq (b := b₃) (by omega)]

theorem encodeChar_four {b b₂ b₃ b₄ : UInt8} (hlo : 0xF0 ≤ b.toNat) (hhi : b.toNat ≤ 0xF4)
    (h₂ : mayFollow b b₂ = true) (h₃ : isContinuation b₃ = true) (h₄ : isContinuation b₄ = true) :
    encodeChar (Char.ofNat (b.toNat % 8 * 262144 + b₂.toNat % 64 * 4096 + b₃.toNat % 64 * 64 +
      b₄.toNat % 64)) = [b, b₂, b₃, b₄] := by
  obtain ⟨hc₂, -, -, hF0, hF4⟩ := (mayFollow_iff b b₂).1 h₂
  have hc₃ := (isContinuation_iff b₃).1 h₃
  have hc₄ := (isContinuation_iff b₄).1 h₄
  have valid : (b.toNat % 8 * 262144 + b₂.toNat % 64 * 4096 + b₃.toNat % 64 * 64 +
      b₄.toNat % 64).isValidChar := by
    unfold Nat.isValidChar
    omega
  rw [encodeChar, toNat_charOfNat valid]
  rw [if_neg (by omega), if_neg (by omega), if_neg (by omega), ofNat_eq (b := b) (by omega),
    ofNat_eq (b := b₂) (by omega), ofNat_eq (b := b₃) (by omega), ofNat_eq (b := b₄) (by omega)]

/-- A character is read from its own bytes only. -/
theorem encodeChar_of_head {b : UInt8} {rest after : Bytes} {c : Char}
    (h : head b rest = .char c after) : b :: rest = encodeChar c ++ after := by
  unfold head at h
  split at h
  · rename_i single
    cases h
    rw [encodeChar_one (UInt8.lt_iff_toNat_lt.1 single)]
    rfl
  split at h
  · cases h
  rename_i notSingle
  have lead : 0xC2 ≤ b.toNat ∧ b.toNat ≤ 0xF4 := by
    simpa [UInt8.lt_iff_toNat_lt] using notSingle
  split at h
  · cases h
  split at h
  · cases h
  rename_i b₂ rest₂ follows
  replace follows : mayFollow b b₂ = true := by simpa using follows
  split at h
  · rename_i two
    cases h
    rw [low, encodeChar_two lead.1 (UInt8.lt_iff_toNat_lt.1 two) ((mayFollow_iff b b₂).1 follows).1]
    rfl
  rename_i notTwo
  replace notTwo : 0xE0 ≤ b.toNat := by simpa [UInt8.lt_iff_toNat_lt] using notTwo
  split at h
  · cases h
  split at h
  · cases h
  rename_i b₃ rest₃ third
  replace third : isContinuation b₃ = true := by simpa using third
  split at h
  · rename_i three
    cases h
    rw [low, low, encodeChar_three notTwo (UInt8.lt_iff_toNat_lt.1 three) follows third]
    rfl
  rename_i notThree
  replace notThree : 0xF0 ≤ b.toNat := by simpa [UInt8.lt_iff_toNat_lt] using notThree
  split at h
  · cases h
  split at h
  · cases h
  rename_i b₄ rest₄ fourth
  cases h
  rw [low, low, low, encodeChar_four notThree lead.2 follows third (by simpa using fourth)]
  rfl

theorem flatMap_encodeChar_of_decodeFrom {position : Nat} {bytes : Bytes} {chars : List Char}
    (h : decodeFrom position bytes = .ok chars) : bytes = chars.flatMap encodeChar := by
  fun_induction decodeFrom position bytes generalizing chars with
  | case1 =>
    cases h
    rfl
  | case2 position b rest c after hhead _ ih =>
    cases hd : decodeFrom (position + (rest.length + 1 - after.length)) after with
    | error fault =>
      rw [hd] at h
      cases h
    | ok later =>
      rw [hd] at h
      cases h
      rw [List.flatMap_cons, ← ih hd, encodeChar_of_head hhead]
  | case3 => cases h
  | case4 => cases h

/-- A text is read from its own bytes only. -/
theorem decode_eq_ok_iff {bytes : Bytes} {chars : List Char} :
    decode bytes = .ok chars ↔ bytes = chars.flatMap encodeChar := by
  refine ⟨flatMap_encodeChar_of_decodeFrom, ?_⟩
  rintro rfl
  exact decodeFrom_flatMap_encodeChar chars 0

theorem decode?_eq_some_iff {bytes : Bytes} {text : String} :
    decode? bytes = some text ↔ bytes = encode text := by
  have key : decode? bytes = some text ↔ decode bytes = .ok text.toList := by
    unfold decode?
    cases decode bytes with
    | error fault => simp [Except.toOption]
    | ok chars => simp [Except.toOption, String.ext_iff]
  rw [key, decode_eq_ok_iff, encode]

/-! ## One byte for each character -/

theorem encodeChar_of_ascii {c : Char} (h : c.toNat < 0x80) :
    encodeChar c = [UInt8.ofNat c.toNat] := by
  rw [encodeChar]
  exact if_pos h

/-- The last byte of a longer character is none of the first half. -/
theorem ascii_of_encodeChar {c : Char} (h : ∀ b ∈ encodeChar c, b.toNat < 0x80) :
    c.toNat < 0x80 := by
  refine Nat.lt_of_not_ge fun large => ?_
  have last : UInt8.ofNat (0x80 + c.toNat % 64) ∈ encodeChar c := by
    have single : ¬ c.toNat < 0x80 := by omega
    simp only [encodeChar, if_neg single]
    split_ifs <;> simp
  have low := h _ last
  rw [toNat_ofNat (by omega)] at low
  omega

/-- No byte of a longer character is one of the first half. -/
theorem le_of_mem_encodeChar {c : Char} {b : UInt8} (large : 0x80 ≤ c.toNat)
    (h : b ∈ encodeChar c) : 0x80 ≤ b.toNat := by
  have bound : c.toNat < 0x110000 := c.valid.elim (fun h => Nat.lt_trans h (by decide)) (·.2)
  have single : ¬ c.toNat < 0x80 := by omega
  have byte {m : Nat} (low : 0x80 ≤ m) (high : m < 0x100) : 0x80 ≤ (UInt8.ofNat m).toNat := by
    rwa [toNat_ofNat high]
  simp only [encodeChar, if_neg single] at h
  split_ifs at h <;> simp only [List.mem_cons, List.not_mem_nil, or_false] at h
  · obtain rfl | rfl := h <;> exact byte (by omega) (by omega)
  · obtain rfl | rfl | rfl := h <;> exact byte (by omega) (by omega)
  · obtain rfl | rfl | rfl | rfl := h <;> exact byte (by omega) (by omega)

/-- A text is cut into texts at each of its characters of one byte. -/
theorem exists_split_of_ascii {chars : List Char} {front behind : Bytes} {b : UInt8}
    (ascii : b.toNat < 0x80) (h : chars.flatMap encodeChar = front ++ b :: behind) :
    ∃ before after : List Char,
      front = before.flatMap encodeChar ∧ behind = after.flatMap encodeChar := by
  induction chars generalizing front with
  | nil => simp at h
  | cons c chars ih =>
    rw [List.flatMap_cons] at h
    obtain ⟨front', rfl, later⟩ | ⟨tail, first, later⟩ := List.append_eq_append_iff.1 h
    · obtain ⟨before, after, rfl, rfl⟩ := ih later
      exact ⟨c :: before, after, List.flatMap_cons.symm, rfl⟩
    · cases tail with
      | nil =>
        have behind_first : chars.flatMap encodeChar = [] ++ b :: behind := later.symm
        obtain ⟨_, after, -, rfl⟩ := ih behind_first
        exact ⟨[c], after, by simpa using first.symm, rfl⟩
      | cons b' tail =>
        -- The byte belongs to `c`, which has no other one then.
        obtain ⟨rfl, rfl⟩ := List.cons.inj later
        have mem : b ∈ encodeChar c := by simp [first]
        have small : c.toNat < 0x80 := Nat.lt_of_not_ge fun large =>
          Nat.not_le_of_lt ascii (le_of_mem_encodeChar large mem)
        rw [encodeChar_of_ascii small] at first
        obtain ⟨rfl, last⟩ | ⟨-, none⟩ := List.singleton_eq_append_iff.1 first
        · obtain rfl := (List.cons.inj last).2
          exact ⟨[], chars, rfl, rfl⟩
        · cases none

/-- A part of a text is a text itself if it starts and ends with a character of one byte. -/
theorem exists_encode_of_part {text : String} {front part behind : Bytes} {first last : UInt8}
    (h : encode text = front ++ part ++ behind) (starts : part.head? = some first)
    (ends : part.getLast? = some last) (hfirst : first.toNat < 0x80) (hlast : last.toNat < 0x80) :
    ∃ raw, part = encode raw := by
  obtain ⟨init, rfl⟩ := List.getLast?_eq_some_iff.1 ends
  cases init with
  | nil => exact ⟨.ofList [Char.ofNat last.toNat], by simp [encode, encodeChar_one hlast]⟩
  | cons first' middle =>
    obtain rfl : first' = first := Option.some.inj starts
    have behind_first : encode text = front ++ first' :: (middle ++ last :: behind) := by simp [h]
    obtain ⟨_, after, -, later⟩ := exists_split_of_ascii hfirst behind_first
    obtain ⟨inner, _, rfl, -⟩ := exists_split_of_ascii hlast later.symm
    exact ⟨.ofList (Char.ofNat first'.toNat :: inner ++ [Char.ofNat last.toNat]), by
      simp [encode, encodeChar_one hfirst, encodeChar_one hlast]⟩

/-! ## Valid bytes -/

/-- No first byte needs masking, since no character is too large for its bytes. -/
theorem encodeChar_eq_utf8EncodeChar (c : Char) : encodeChar c = String.utf8EncodeChar c := by
  have hc : c.toNat < 0xD800 ∨ 0xDFFF < c.toNat ∧ c.toNat < 0x110000 := c.valid
  have hval : c.val.toNat = c.toNat := rfl
  have bound (n m : Nat) : n ≤ m ↔ n < m + 1 := Nat.lt_succ_iff.symm
  simp only [encodeChar, String.utf8EncodeChar, hval, bound, Nat.reduceAdd]
  generalize c.toNat = n at hc
  split_ifs
  · rfl
  · have lead : n / 64 % 32 = n / 64 := Nat.mod_eq_of_lt (by omega)
    rw [lead, Nat.add_comm 0xC0, Nat.add_comm 0x80]
  · have lead : n / 4096 % 16 = n / 4096 := Nat.mod_eq_of_lt (by omega)
    rw [lead, Nat.add_comm 0xE0, Nat.add_comm 0x80, Nat.add_comm 0x80]
  · have lead : n / 262144 % 8 = n / 262144 := Nat.mod_eq_of_lt (by omega)
    rw [lead, Nat.add_comm 0xF0, Nat.add_comm 0x80, Nat.add_comm 0x80, Nat.add_comm 0x80]

/-- The bytes that are UTF-8 are those of the texts. -/
theorem isValidUTF8_iff {bytes : Bytes} :
    bytes.toByteArray.IsValidUTF8 ↔ ∃ text, bytes = encode text := by
  have chars (cs : List Char) : bytes.toByteArray = cs.utf8Encode ↔ bytes = encode (.ofList cs) := by
    rw [List.utf8Encode, encode, String.toList_ofList, funext encodeChar_eq_utf8EncodeChar]
    exact ⟨fun h => by simpa using congrArg (fun b => b.data.toList) h, congrArg List.toByteArray⟩
  constructor
  · rintro ⟨cs, h⟩
    exact ⟨_, (chars cs).1 h⟩
  · rintro ⟨text, h⟩
    rw [← String.ofList_toList (s := text)] at h
    exact ⟨text.toList, (chars text.toList).2 h⟩

end QuoteProver.Text.Utf8
