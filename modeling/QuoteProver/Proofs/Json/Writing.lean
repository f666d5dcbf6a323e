import Mathlib.Data.List.Forall2
import QuoteProver.Json.Record
import QuoteProver.Proofs.Json.Reading
import QuoteProver.Proofs.Text.Hex

/-!
# Reading what is written

A written document spells a value.  `stringOf_quoted` is about texts: whatever characters they have,
the escapes that they are written with stand for these again.  `valueOf_compact_object` is about
records: if the value of each member spells a node, then so does the record.  A record of texts spells
the same in one line (`valueOf_compact_texts`) and over several lines (`valueOf_pretty_texts`).
-/

namespace QuoteProver.Json

open Node Document Text

/-! ## Strings -/

theorem UnitsOf.append {units units' : List Unit16} {s t : Bytes} (h : UnitsOf units s)
    (h' : UnitsOf units' t) : UnitsOf (units ++ units') (s ++ t) := by
  induction h with
  | nil => exact h'
  | plain printable not_end not_letter _ ih => exact .plain printable not_end not_letter ih
  | letter letter _ ih => exact .letter letter ih
  | number hex _ ih => exact .number hex ih

theorem unitsOf_plain {s : Bytes} (h : ∀ b ∈ s, 0x20 ≤ b ∧ b ≠ 0x22 ∧ b ≠ 0x5C) :
    UnitsOf (s.map .byte) s := by
  induction s with
  | nil => exact .nil
  | cons b s ih =>
    obtain ⟨⟨printable, not_end, not_letter⟩, h⟩ := List.forall_mem_cons.1 h
    exact .plain printable not_end not_letter (ih h)

theorem unitBytes_plain (s : Bytes) (units : List Unit16) :
    unitBytes (s.map .byte ++ units) = (s ++ ·) <$> unitBytes units := by
  induction s with
  | nil => simp
  | cons b s ih =>
    rw [List.map_cons, List.cons_append, unitBytes, ih]
    simp [Function.comp_def]

/-- A unit below the surrogates is a character by itself. -/
theorem unitBytes_unit {n : Nat} (small : n < 0xD800) (units : List Unit16) :
    unitBytes (.unit n :: units) = (Utf8.encodeChar (Char.ofNat n) ++ ·) <$> unitBytes units := by
  have not_high : ¬ (0xD800 ≤ n && n < 0xDC00) = true := by simp; omega
  have not_low : ¬ (0xDC00 ≤ n && n < 0xE000) = true := by simp; omega
  have not_surrogate : ¬ (0xD800 ≤ n && n < 0xE000) = true := by simp; omega
  rw [unitBytes.eq_def]
  cases units with
  | nil => exact if_neg not_surrogate
  | cons next units =>
    cases next with
    | byte => exact if_neg not_surrogate
    | unit => exact (if_neg not_high).trans (if_neg not_low)

/-- The units stand for a character, whatever follows them. -/
def Stands (c : Char) (units : List Unit16) : Prop :=
  ∀ rest, unitBytes (units ++ rest) = (Utf8.encodeChar c ++ ·) <$> unitBytes rest

theorem stands_plain (c : Char) : Stands c ((Utf8.encodeChar c).map .byte) :=
  unitBytes_plain _

/-- A letter behind a backslash stands for the character of its byte. -/
theorem letter_stands {c letter : Char} {e b : UInt8} (hb : Utf8.encodeChar c = [b])
    (he : Utf8.encodeChar letter = [e]) (h : escapedByte? e = some b) :
    ∃ units, UnitsOf units (['\\', letter].flatMap Utf8.encodeChar) ∧ Stands c units := by
  refine ⟨[.byte b], ?_, ?_⟩
  · have written : ['\\', letter].flatMap Utf8.encodeChar = [0x5C, e] := by
      rw [List.flatMap_cons, List.flatMap_singleton, he]
      rfl
    rw [written]
    exact .letter h .nil
  · have stands := stands_plain c
    rwa [hb] at stands

theorem hexValue?_digitChar : ∀ n < 16, ∃ b, Utf8.encodeChar (Nat.digitChar n) = [b] ∧
    hexValue? b = some n := by
  have byte : ∀ n < 16,
      Utf8.encodeChar (Nat.digitChar n) = [UInt8.ofNat (Nat.digitChar n).toNat] ∧
        hexValue? (UInt8.ofNat (Nat.digitChar n).toNat) = some n := by decide
  exact fun n small => ⟨_, byte n small⟩

/-- A control character without a letter of its own is written by its number. -/
theorem control_stands {c : Char} (control : c.toNat < 0x20) :
    ∃ units, UnitsOf units (['\\', 'u', '0', '0', Nat.digitChar (c.toNat / 16),
      Nat.digitChar (c.toNat % 16)].flatMap Utf8.encodeChar) ∧ Stands c units := by
  obtain ⟨high, high_written, high_value⟩ := hexValue?_digitChar (c.toNat / 16) (by omega)
  obtain ⟨low, low_written, low_value⟩ := hexValue?_digitChar (c.toNat % 16) (by omega)
  refine ⟨[.unit c.toNat], ?_, fun rest => ?_⟩
  · have zero : hexValue? 0x30 = some 0 := rfl
    have number : 0 * 4096 + 0 * 256 + c.toNat / 16 * 16 + c.toNat % 16 = c.toNat := by omega
    have hex : hex4? 0x30 0x30 high low = some c.toNat := by
      simp only [hex4?, zero, high_value, low_value, Option.bind_eq_bind, Option.bind_some, number]
      rfl
    simp only [List.flatMap_cons, high_written, low_written]
    exact .number hex .nil
  · rw [List.singleton_append, unitBytes_unit (by omega), Char.ofNat_toNat]

/-- What a character is written as stands for it. -/
theorem exists_units_escapeChar (c : Char) :
    ∃ units, UnitsOf units ((escapeChar c).flatMap Utf8.encodeChar) ∧ Stands c units := by
  unfold escapeChar
  split_ifs with mark backslash backspace feed newline ret tab control
  · subst mark
    exact letter_stands rfl rfl rfl
  · subst backslash
    exact letter_stands rfl rfl rfl
  · subst backspace
    exact letter_stands rfl rfl rfl
  · subst feed
    exact letter_stands rfl rfl rfl
  · subst newline
    exact letter_stands rfl rfl rfl
  · subst ret
    exact letter_stands rfl rfl rfl
  · subst tab
    exact letter_stands rfl rfl rfl
  · exact control_stands control
  · rw [List.flatMap_singleton]
    refine ⟨_, unitsOf_plain fun b mem => ?_, stands_plain c⟩
    have value : b.toNat = c.toNat ∨ 0x80 ≤ b.toNat := by
      by_cases ascii : c.toNat < 0x80
      · rw [Utf8.encodeChar_of_ascii ascii, List.mem_singleton] at mem
        exact .inl (by rw [mem, Utf8.toNat_ofNat (by omega)])
      · exact .inr (Utf8.le_of_mem_encodeChar (Nat.le_of_not_lt ascii) mem)
    have not_mark : c.toNat ≠ 0x22 := fun same => mark (Char.toNat_inj.1 same)
    have not_backslash : c.toNat ≠ 0x5C := fun same => backslash (Char.toNat_inj.1 same)
    refine ⟨UInt8.le_iff_toNat_le.2 ?_, ?_, ?_⟩
    · show 0x20 ≤ b.toNat
      omega
    · rintro rfl
      exact value.elim (fun same => not_mark same.symm) (by decide)
    · rintro rfl
      exact value.elim (fun same => not_backslash same.symm) (by decide)

theorem exists_units_escaped (chars : List Char) :
    ∃ units, UnitsOf units ((chars.flatMap escapeChar).flatMap Utf8.encodeChar) ∧
      unitBytes units = some (chars.flatMap Utf8.encodeChar) := by
  induction chars with
  | nil => exact ⟨[], .nil, rfl⟩
  | cons c chars ih =>
    obtain ⟨units, spelt, stands⟩ := exists_units_escapeChar c
    obtain ⟨others, spelt', read⟩ := ih
    refine ⟨units ++ others, ?_, ?_⟩
    · simp only [List.flatMap_cons, List.flatMap_append]
      exact spelt.append spelt'
    · rw [stands, read]
      rfl

/-- A text in marks is read as the text. -/
theorem stringOf_quoted (text : String) : StringOf (some text) (Utf8.encode (quoted text)) := by
  obtain ⟨units, spelt, read⟩ := exists_units_escaped text.toList
  have decoded : (unitBytes units).bind Utf8.decode? = some text := by
    rw [read]
    exact Utf8.decode?_eq_some_iff.2 rfl
  rw [← decoded, Utf8.encode, quoted, String.toList_ofList, List.flatMap_append, List.flatMap_cons]
  exact .mk spelt

/-- No digit is escaped. -/
theorem quoted_hex (bytes : Bytes) :
    quoted (Hex.encode bytes) = "\"" ++ Hex.encode bytes ++ "\"" := by
  have plain : Hex.lowerDigits.all (fun c => escapeChar c = [c]) = true := by decide
  have kept : (Hex.encodeChars bytes).flatMap escapeChar = Hex.encodeChars bytes := by
    have each (c : Char) (hc : c ∈ Hex.encodeChars bytes) : escapeChar c = [c] := by
      have digit := Hex.mem_lowerDigits_of_mem_encodeChars hc
      simpa using List.all_eq_true.1 plain c digit
    rw [List.flatMap_congr each, List.flatMap_singleton']
  rw [quoted, Hex.encode, String.toList_ofList, kept]
  rw [← String.toList_inj]
  simp

/-! ## Records -/

theorem encode_append (s t : String) : Utf8.encode (s ++ t) = Utf8.encode s ++ Utf8.encode t := by
  simp only [Utf8.encode, String.toList_append, List.flatMap_append]

theorem blanks_empty : Blanks (Utf8.encode "") := Blanks.nil

/-- White space may stand behind the colon. -/
theorem memberOf_written {name value gap : String} {node : Node} (blanks : Blanks (Utf8.encode gap))
    (spelt : ValueOf node (Utf8.encode value)) :
    MemberOf (some name, Utf8.encode value, node)
      (Utf8.encode (quoted name ++ (":" ++ gap) ++ value)) := by
  have colon : Utf8.encode ":" = [0x3A] := rfl
  have member := MemberOf.mk (stringOf_quoted name) Blanks.nil blanks spelt
  rw [encode_append, encode_append, encode_append, colon]
  simpa using member

/-- The text spells the member. -/
def Spells (text : String) (member : Option String × Bytes × Node) : Prop :=
  MemberOf member (Utf8.encode text)

/-- Members with commas in between: white space may stand in front of each of them and behind the last
one. -/
theorem membersOf_intercalate {gap behind text : String} {texts : List String}
    {member : Option String × Bytes × Node} {members : List (Option String × Bytes × Node)}
    (blanks : Blanks (Utf8.encode gap)) (blanks' : Blanks (Utf8.encode behind))
    (first : Spells text member) (others : List.Forall₂ Spells texts members) :
    ∃ s, Utf8.encode (",".intercalate ((text :: texts).map (gap ++ ·))) ++
        (Utf8.encode behind ++ [0x7D]) = Utf8.encode gap ++ s ∧ MembersOf (member :: members) s := by
  induction others generalizing text member with
  | nil =>
    refine ⟨_, ?_, MembersOf.last first blanks'⟩
    rw [List.map_singleton, String.intercalate_singleton, encode_append]
    simp only [List.append_assoc]
  | @cons text' member' texts members first' others ih =>
    have comma : Utf8.encode "," = [0x2C] := rfl
    obtain ⟨s, written, spelt⟩ := ih first'
    refine ⟨_, ?_, MembersOf.cons first Blanks.nil blanks spelt⟩
    rw [List.map_cons, String.intercalate_cons_of_ne_nil (by simp), encode_append, encode_append,
      encode_append, comma, List.append_assoc, written]
    simp only [List.append_assoc, List.cons_append, List.nil_append]

/-- The member that a written member is read as. -/
inductive ReadAs : String × Document → Option String × Bytes × Node → Prop
  | mk {name : String} {document : Document} {node : Node} :
      ValueOf node (Utf8.encode document.compact) →
      ReadAs (name, document) (some name, Utf8.encode document.compact, node)

theorem ReadAs.spells {entry : String × Document} {member : Option String × Bytes × Node}
    (h : ReadAs entry member) : Spells (quoted entry.1 ++ ":" ++ entry.2.compact) member := by
  obtain @⟨name, document, node, value⟩ := h
  exact @memberOf_written name _ "" _ blanks_empty value

theorem spells_compactMembers {entries : List (String × Document)}
    {members : List (Option String × Bytes × Node)} (h : List.Forall₂ ReadAs entries members) :
    List.Forall₂ Spells (compactMembers entries) members := by
  induction h with
  | nil => exact .nil
  | @cons entry member entries members first _ ih =>
    obtain ⟨name, document⟩ := entry
    rw [compactMembers]
    exact .cons first.spells ih

/-- Members with commas in between make up an object. -/
theorem valueOf_members {texts : List String} {members : List (Option String × Bytes × Node)}
    (h : List.Forall₂ Spells texts members) :
    ValueOf (.object members) (Utf8.encode ("\x7b" ++ ",".intercalate texts ++ "\x7d")) := by
  have opened : Utf8.encode "\x7b" = [0x7B] := rfl
  have closed : Utf8.encode "\x7d" = Utf8.encode "" ++ [0x7D] := rfl
  rw [encode_append, encode_append, opened, closed]
  cases h with
  | nil => exact .emptyObject Blanks.nil
  | cons first others =>
    obtain ⟨s, written, spelt⟩ := membersOf_intercalate blanks_empty blanks_empty first others
    simp only [String.empty_append, List.map_id'] at written
    rw [List.append_assoc, written]
    exact .object Blanks.nil spelt

/-- A written record is read as a record with the same names, in which each value stands as it has
been written. -/
theorem valueOf_compact_object {entries : List (String × Document)}
    {members : List (Option String × Bytes × Node)} (h : List.Forall₂ ReadAs entries members) :
    ValueOf (.object members) (Utf8.encode (compact (.object entries))) := by
  rw [compact]
  exact valueOf_members (spells_compactMembers h)

/-! ## Records of texts -/

/-- A record whose values are texts. -/
def textsDocument (texts : List (String × String)) : Document :=
  .object (texts.map fun (name, text) => (name, .string text))

/-- The members of a record whose values are texts. -/
def textsMembers (texts : List (String × String)) : List (Option String × Bytes × Node) :=
  texts.map fun (name, text) => (some name, Utf8.encode (quoted text), .string (some text))

theorem readAs_texts (texts : List (String × String)) :
    List.Forall₂ ReadAs (texts.map fun (name, text) => (name, .string text)) (textsMembers texts) := by
  rw [textsMembers, List.forall₂_map_left_iff, List.forall₂_map_right_iff, List.forall₂_same]
  rintro ⟨name, text⟩ -
  have written : ValueOf (.string (some text)) (Utf8.encode (compact (.string text))) := by
    rw [compact]
    exact .string (stringOf_quoted text)
  exact ReadAs.mk written

theorem valueOf_compact_texts (texts : List (String × String)) :
    ValueOf (.object (textsMembers texts)) (Utf8.encode (textsDocument texts).compact) :=
  valueOf_compact_object (readAs_texts texts)

theorem blanks_indentation (level : Nat) : Blanks (Utf8.encode (indentation level)) := by
  intro b written
  obtain ⟨c, mem, hb⟩ := List.mem_flatMap.1 written
  have space : c = '\n' ∨ c = ' ' := by
    simp only [indentation, String.toList_append, String.toList_ofList, List.mem_append] at mem
    exact mem.imp List.mem_singleton.1 fun h => (List.mem_replicate.1 h).2
  obtain rfl | rfl := space <;> obtain rfl := List.mem_singleton.1 hb <;> rfl

/-- Members one a line. -/
theorem valueOf_lines (level : Nat) {texts : List String}
    {members : List (Option String × Bytes × Node)} (h : List.Forall₂ Spells texts members) :
    ValueOf (.object members) (Utf8.encode (lines level "\x7b" "\x7d" texts)) := by
  have opened : Utf8.encode "\x7b" = [0x7B] := rfl
  have closed : Utf8.encode "\x7d" = [0x7D] := rfl
  cases h with
  | nil =>
    rw [lines, encode_append, opened, closed]
    exact .emptyObject Blanks.nil
  | @cons text member texts members first others =>
    have more : text :: texts = [] → False := nofun
    obtain ⟨s, written, spelt⟩ := membersOf_intercalate (blanks_indentation (level + 1))
      (blanks_indentation level) first others
    rw [lines.eq_2 _ _ _ _ more, encode_append, encode_append, encode_append, opened, closed,
      List.append_assoc, List.append_assoc, written, ← List.append_assoc]
    exact .object (blanks_indentation (level + 1)) spelt

theorem spells_prettyMembers (level : Nat) (texts : List (String × String)) :
    List.Forall₂ Spells (prettyMembers level (texts.map fun (name, text) => (name, .string text)))
      (textsMembers texts) := by
  have space : Blanks (Utf8.encode " ") := fun b h => by
    obtain rfl := List.mem_singleton.1 h
    rfl
  induction texts with
  | nil =>
    rw [List.map_nil, prettyMembers]
    exact .nil
  | cons entry texts ih =>
    obtain ⟨name, text⟩ := entry
    have colon : ": " = ":" ++ " " := rfl
    rw [List.map_cons, prettyMembers, prettyAt, colon]
    exact .cons (memberOf_written space (.string (stringOf_quoted text))) ih

theorem valueOf_pretty_texts (texts : List (String × String)) :
    ValueOf (.object (textsMembers texts)) (Utf8.encode (textsDocument texts).pretty) := by
  rw [pretty, textsDocument, prettyAt]
  exact valueOf_lines 0 (spells_prettyMembers 1 texts)

theorem valueOf_compact_hex (bytes : Bytes) :
    ValueOf (.string (some (Hex.encode bytes))) (Utf8.encode (Document.hex bytes).compact) :=
  .string (stringOf_quoted _)

end QuoteProver.Json
