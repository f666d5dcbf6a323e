import QuoteProver.Proofs.Json.Tokens

/-!
# Reading JSON texts

The reader of values gives what the grammar says: what it has read is spelt by the bytes that it has
taken (`valueOf_of_readValue`), and every spelling is read in front of bytes at which it ends, with
any fuel above its length (`readValue_append`).  So a text is read exactly if it spells a value
(`parse_eq_some_iff`).
-/

namespace QuoteProver.Json

open Node

/-! ## Spellings -/

theorem StringOf.head {text : Option String} {s : Bytes} (h : StringOf text s) :
    ∃ tail, s = 0x22 :: tail := by
  cases h
  exact ⟨_, rfl⟩

/-- A value does not start with white space, nor with the end of an array. -/
theorem ValueOf.head {node : Node} {s : Bytes} (h : ValueOf node s) :
    ∃ b tail, s = b :: tail ∧ isBlank b = false ∧ b ≠ 0x5D := by
  cases h with
  | number h =>
    obtain ⟨b, tail, rfl, rfl | digit⟩ := h.head
    · exact ⟨_, _, rfl, by decide⟩
    · refine ⟨b, tail, rfl, not_blank_of_isDigit digit, ?_⟩
      rintro rfl
      cases digit
  | string h =>
    obtain ⟨tail, rfl⟩ := h.head
    exact ⟨_, _, rfl, by decide⟩
  | _ => exact ⟨_, _, rfl, by decide⟩

theorem ItemsOf.head {items : List (Bytes × Node)} {s : Bytes} (h : ItemsOf items s) :
    ∃ b tail, s = b :: tail ∧ isBlank b = false ∧ b ≠ 0x5D := by
  cases h with
  | last value | cons value =>
    obtain ⟨b, tail, rfl, first⟩ := value.head
    exact ⟨_, _, rfl, first⟩

theorem MembersOf.head {members : List (Option String × Bytes × Node)} {s : Bytes}
    (h : MembersOf members s) : ∃ tail, s = 0x22 :: tail := by
  cases h with
  | last member | cons member =>
    obtain ⟨name⟩ := member
    obtain ⟨tail, rfl⟩ := name.head
    exact ⟨_, rfl⟩

theorem solid_cons {b : UInt8} {s : Bytes} (h : isBlank b = false) : Solid (b :: s) := by
  rintro _ ⟨⟩
  exact h

theorem upTo_append (s rest : Bytes) : upTo (s ++ rest) rest = s := by
  rw [upTo, List.length_append, Nat.add_sub_cancel, List.take_left]

/-! ## What has been read -/

/-- What is read with this fuel is spelt by the bytes that were taken. -/
structure Sound (fuel : Nat) : Prop where
  value : ∀ {s rest node}, readValue fuel s = some (node, rest) →
    ∃ t, s = t ++ rest ∧ ValueOf node t
  items : ∀ {s rest items}, readItems fuel s = some (items, rest) →
    ∃ t, s = t ++ rest ∧ ItemsOf items t
  members : ∀ {s rest members}, readMembers fuel s = some (members, rest) →
    ∃ t, s = t ++ rest ∧ MembersOf members t

namespace Sound

variable {fuel : Nat}

theorem value_succ (h : Sound fuel) {s rest : Bytes} {node : Node}
    (read : readValue (fuel + 1) s = some (node, rest)) :
    ∃ t, s = t ++ rest ∧ ValueOf node t := by
  unfold readValue at read
  split at read
  · rename_i tail
    obtain ⟨⟨text, after⟩, found, read⟩ := Option.map_eq_some_iff.1 read
    cases read
    obtain ⟨t, written, string⟩ := readString_eq_some_iff.1 found
    exact ⟨t, written, .string string⟩
  · rename_i tail
    obtain ⟨gap, blanks, hgap⟩ := exists_blanks tail
    split at read
    · rename_i close
      cases read
      rw [close] at hgap
      exact ⟨_, by rw [hgap]; simp, .emptyArray blanks⟩
    · obtain ⟨⟨items, after⟩, found, read⟩ := Option.map_eq_some_iff.1 read
      cases read
      obtain ⟨t, written, spelt⟩ := h.items found
      exact ⟨_, by rw [hgap, written]; simp, .array blanks spelt⟩
  · rename_i tail
    obtain ⟨gap, blanks, hgap⟩ := exists_blanks tail
    split at read
    · rename_i close
      cases read
      rw [close] at hgap
      exact ⟨_, by rw [hgap]; simp, .emptyObject blanks⟩
    · obtain ⟨⟨members, after⟩, found, read⟩ := Option.map_eq_some_iff.1 read
      cases read
      obtain ⟨t, written, spelt⟩ := h.members found
      exact ⟨_, by rw [hgap, written]; simp, .object blanks spelt⟩
  · cases read
    exact ⟨_, rfl, .null⟩
  · cases read
    exact ⟨_, rfl, .boolTrue⟩
  · cases read
    exact ⟨_, rfl, .boolFalse⟩
  · obtain ⟨⟨n, after⟩, found, read⟩ := Option.map_eq_some_iff.1 read
    cases read
    obtain ⟨t, written, number⟩ := numberOf_of_readNumber found
    exact ⟨t, written, .number number⟩

theorem items_succ (h : Sound fuel) {s rest : Bytes} {items : List (Bytes × Node)}
    (read : readItems (fuel + 1) s = some (items, rest)) :
    ∃ t, s = t ++ rest ∧ ItemsOf items t := by
  simp only [readItems, Option.bind_eq_bind, Option.bind_eq_some_iff, Prod.exists] at read
  obtain ⟨node, after, found, read⟩ := read
  obtain ⟨t, rfl, value⟩ := h.value found
  rw [upTo_append] at read
  obtain ⟨gap, blanks, hgap⟩ := exists_blanks after
  split at read
  · rename_i tail comma
    obtain ⟨gap', blanks', hgap'⟩ := exists_blanks tail
    simp only [Option.bind_eq_some_iff, Prod.exists] at read
    obtain ⟨others, end_, found, read⟩ := read
    cases read
    obtain ⟨t', written, spelt⟩ := h.items found
    exact ⟨_, by rw [hgap, comma, hgap', written]; simp, .cons value blanks blanks' spelt⟩
  · rename_i tail close
    cases read
    exact ⟨_, by rw [hgap, close]; simp, .last value blanks⟩
  · cases read

theorem members_succ (h : Sound fuel) {s rest : Bytes}
    {members : List (Option String × Bytes × Node)}
    (read : readMembers (fuel + 1) s = some (members, rest)) :
    ∃ t, s = t ++ rest ∧ MembersOf members t := by
  unfold readMembers at read
  split at read
  · rename_i body
    simp only [Option.bind_eq_bind, Option.bind_eq_some_iff, Prod.exists] at read
    obtain ⟨name, after_name, found, read⟩ := read
    obtain ⟨k, hk, string⟩ := readString_eq_some_iff.1 found
    obtain ⟨gap₁, blanks₁, hgap₁⟩ := exists_blanks after_name
    split at read
    · rename_i tail colon
      obtain ⟨gap₂, blanks₂, hgap₂⟩ := exists_blanks tail
      simp only [Option.bind_eq_some_iff, Prod.exists] at read
      obtain ⟨node, after, found, read⟩ := read
      obtain ⟨t, written, value⟩ := h.value found
      rw [written, upTo_append] at read
      have member : MemberOf (name, t, node) (k ++ gap₁ ++ 0x3A :: gap₂ ++ t) :=
        .mk string blanks₁ blanks₂ value
      have so_far : 0x22 :: body = (k ++ gap₁ ++ 0x3A :: gap₂ ++ t) ++ after := by
        rw [hk, hgap₁, colon, hgap₂, written]
        simp
      obtain ⟨gap₃, blanks₃, hgap₃⟩ := exists_blanks after
      split at read
      · rename_i tail comma
        obtain ⟨gap₄, blanks₄, hgap₄⟩ := exists_blanks tail
        simp only [Option.bind_eq_some_iff, Prod.exists] at read
        obtain ⟨others, end_, found, read⟩ := read
        cases read
        obtain ⟨t', written, spelt⟩ := h.members found
        refine ⟨_, ?_, .cons member blanks₃ blanks₄ spelt⟩
        rw [so_far, hgap₃, comma, hgap₄, written]
        simp
      · rename_i tail close
        cases read
        refine ⟨_, ?_, .last member blanks₃⟩
        rw [so_far, hgap₃, close]
        simp
      · cases read
    · cases read
  · cases read

end Sound

theorem sound (fuel : Nat) : Sound fuel := by
  -- Each of the three readers calls the others with less fuel, so they are taken together.
  induction fuel with
  | zero => exact ⟨nofun, nofun, nofun⟩
  | succ fuel ih => exact ⟨ih.value_succ, ih.items_succ, ih.members_succ⟩

/-! ## What is read -/

theorem readValue_number {fuel : Nat} {b : UInt8} {s : Bytes}
    (h : b = 0x2D ∨ isDigit b = true) :
    readValue (fuel + 1) (b :: s) = (readNumber (b :: s)).map fun (n, rest) => (.number n, rest) := by
  unfold readValue
  split
  case h_7 => rfl
  all_goals
    rename_i first
    obtain ⟨rfl, -⟩ := List.cons.inj first
    exact absurd h (by decide)

theorem readValue_array {fuel : Nat} {b : UInt8} {s tail : Bytes}
    (first : skipBlanks s = b :: tail) (h : b ≠ 0x5D) :
    readValue (fuel + 1) (0x5B :: s) =
      (readItems fuel (b :: tail)).map fun (items, rest) => (.array items, rest) := by
  simp only [readValue, first]
  split
  · rename_i close
    exact absurd (List.cons.inj close).1 h
  · rfl

theorem readValue_object {fuel : Nat} {s tail : Bytes} (first : skipBlanks s = 0x22 :: tail) :
    readValue (fuel + 1) (0x7B :: s) =
      (readMembers fuel (0x22 :: tail)).map fun (members, rest) => (.object members, rest) := by
  simp only [readValue, first]
  rfl

/-- What is shorter than this fuel is read. -/
structure Complete (fuel : Nat) : Prop where
  value : ∀ {t node}, ValueOf node t → t.length < fuel → ∀ {rest}, Ends rest →
    readValue fuel (t ++ rest) = some (node, rest)
  items : ∀ {t items}, ItemsOf items t → t.length < fuel → ∀ rest,
    readItems fuel (t ++ rest) = some (items, rest)
  members : ∀ {t members}, MembersOf members t → t.length < fuel → ∀ rest,
    readMembers fuel (t ++ rest) = some (members, rest)

namespace Complete

variable {fuel : Nat}

theorem value_succ (h : Complete fuel) {t : Bytes} {node : Node} (spelt : ValueOf node t)
    (short : t.length < fuel + 1) {rest : Bytes} (ends : Ends rest) :
    readValue (fuel + 1) (t ++ rest) = some (node, rest) := by
  cases spelt with
  | null | boolTrue | boolFalse => rfl
  | number number =>
    have read := readNumber_append number ends
    obtain ⟨b, tail, rfl, first⟩ := number.head
    rw [List.cons_append] at read ⊢
    rw [readValue_number first, read]
    rfl
  | @string text _ string =>
    obtain ⟨tail, rfl⟩ := string.head
    have read : readString (tail ++ rest) = some (text, rest) :=
      readString_eq_some_iff.2 ⟨0x22 :: tail, rfl, string⟩
    exact congrArg (Option.map _) read
  | @emptyArray gap blanks =>
    have skipped : skipBlanks (gap ++ ([0x5D] ++ rest)) = 0x5D :: rest :=
      skipBlanks_append blanks (solid_cons rfl)
    rw [List.append_assoc, List.cons_append]
    simp only [readValue, skipped]
  | @array items gap s blanks spelt =>
    have read := h.items spelt (by simp at short; omega) rest
    obtain ⟨b, tail, rfl, solid, first⟩ := spelt.head
    have skipped : skipBlanks (gap ++ (b :: tail ++ rest)) = b :: (tail ++ rest) :=
      skipBlanks_append blanks (solid_cons solid)
    rw [List.append_assoc, List.cons_append, readValue_array skipped first, ← List.cons_append, read]
    rfl
  | @emptyObject gap blanks =>
    have skipped : skipBlanks (gap ++ ([0x7D] ++ rest)) = 0x7D :: rest :=
      skipBlanks_append blanks (solid_cons rfl)
    rw [List.append_assoc, List.cons_append]
    simp only [readValue, skipped]
  | @object members gap s blanks spelt =>
    have read := h.members spelt (by simp at short; omega) rest
    obtain ⟨tail, rfl⟩ := spelt.head
    have skipped : skipBlanks (gap ++ (0x22 :: tail ++ rest)) = 0x22 :: (tail ++ rest) :=
      skipBlanks_append blanks (solid_cons rfl)
    rw [List.append_assoc, List.cons_append, readValue_object skipped, ← List.cons_append, read]
    rfl

theorem items_succ (h : Complete fuel) {t : Bytes} {items : List (Bytes × Node)}
    (spelt : ItemsOf items t) (short : t.length < fuel + 1) (rest : Bytes) :
    readItems (fuel + 1) (t ++ rest) = some (items, rest) := by
  cases spelt with
  | @last s gap node value blanks =>
    have ends : Ends (gap ++ 0x5D :: rest) := .blanks_append blanks (ends_cons (by decide))
    have read := h.value value (by simp at short; omega) ends
    have skipped : skipBlanks (gap ++ 0x5D :: rest) = 0x5D :: rest :=
      skipBlanks_append blanks (solid_cons rfl)
    simp only [List.append_assoc, List.cons_append, List.nil_append]
    simp only [readItems, read, Option.bind_eq_bind, Option.bind_some, skipped, upTo_append]
    rfl
  | @cons s gap gap' t node others value blanks blanks' spelt =>
    have read_others := h.items spelt (by simp at short; omega) rest
    obtain ⟨b, tail, rfl, solid, -⟩ := spelt.head
    have ends : Ends (gap ++ 0x2C :: (gap' ++ (b :: tail ++ rest))) :=
      .blanks_append blanks (ends_cons (by decide))
    have read := h.value value (by simp at short; omega) ends
    have skipped : skipBlanks (gap ++ 0x2C :: (gap' ++ (b :: tail ++ rest))) =
        0x2C :: (gap' ++ (b :: tail ++ rest)) :=
      skipBlanks_append blanks (solid_cons rfl)
    have skipped' : skipBlanks (gap' ++ (b :: tail ++ rest)) = b :: tail ++ rest :=
      skipBlanks_append blanks' (solid_cons solid)
    rw [List.append_assoc, List.append_assoc, List.append_assoc, List.cons_append]
    simp only [readItems, read, Option.bind_eq_bind, Option.bind_some, skipped, skipped',
      read_others, upTo_append]
    rfl

/-- After a member comes what stands behind its value. -/
theorem readMembers_member (h : Complete fuel) {m : Bytes} {member : Option String × Bytes × Node}
    (spelt : MemberOf member m) (short : m.length < fuel + 1) {rest : Bytes} (ends : Ends rest) :
    readMembers (fuel + 1) (m ++ rest) =
      match skipBlanks rest with
      | 0x2C :: rest => do
        let (members, rest) ← readMembers fuel (skipBlanks rest)
        return (member :: members, rest)
      | 0x7D :: rest => some ([member], rest)
      | _ => none := by
  obtain @⟨name, k, gap, gap', s, node, string, blanks, blanks', value⟩ := spelt
  have read := h.value value (by simp at short; omega) ends
  obtain ⟨b, tail, rfl, solid, -⟩ := value.head
  obtain ⟨k, rfl⟩ := string.head
  have skipped : skipBlanks (gap ++ 0x3A :: (gap' ++ (b :: tail ++ rest))) =
      0x3A :: (gap' ++ (b :: tail ++ rest)) :=
    skipBlanks_append blanks (solid_cons rfl)
  have skipped' : skipBlanks (gap' ++ (b :: tail ++ rest)) = b :: tail ++ rest :=
    skipBlanks_append blanks' (solid_cons solid)
  have named : readString (k ++ (gap ++ 0x3A :: (gap' ++ (b :: tail ++ rest)))) =
      some (name, gap ++ 0x3A :: (gap' ++ (b :: tail ++ rest))) :=
    readString_eq_some_iff.2 ⟨0x22 :: k, rfl, string⟩
  rw [List.append_assoc, List.append_assoc, List.append_assoc, List.cons_append, List.cons_append]
  simp only [readMembers, named, read, Option.bind_eq_bind, Option.bind_some, skipped, skipped',
    upTo_append]
  rfl

theorem members_succ (h : Complete fuel) {t : Bytes}
    {members : List (Option String × Bytes × Node)} (spelt : MembersOf members t)
    (short : t.length < fuel + 1) (rest : Bytes) :
    readMembers (fuel + 1) (t ++ rest) = some (members, rest) := by
  cases spelt with
  | @last m gap member spelt blanks =>
    have ends : Ends (gap ++ 0x7D :: rest) := .blanks_append blanks (ends_cons (by decide))
    have skipped : skipBlanks (gap ++ 0x7D :: rest) = 0x7D :: rest :=
      skipBlanks_append blanks (solid_cons rfl)
    have read := h.readMembers_member spelt (by simp at short; omega) ends
    simp only [List.append_assoc, List.cons_append, List.nil_append]
    rw [read, skipped]
    rfl
  | @cons m gap gap' t member others member_spelt blanks blanks' spelt =>
    have read_others := h.members spelt (by simp at short; omega) rest
    obtain ⟨tail, rfl⟩ := spelt.head
    have ends : Ends (gap ++ 0x2C :: (gap' ++ (0x22 :: tail ++ rest))) :=
      .blanks_append blanks (ends_cons (by decide))
    have skipped : skipBlanks (gap ++ 0x2C :: (gap' ++ (0x22 :: tail ++ rest))) =
        0x2C :: (gap' ++ (0x22 :: tail ++ rest)) :=
      skipBlanks_append blanks (solid_cons rfl)
    have skipped' : skipBlanks (gap' ++ (0x22 :: tail ++ rest)) = 0x22 :: tail ++ rest :=
      skipBlanks_append blanks' (solid_cons rfl)
    have read := h.readMembers_member member_spelt (by simp at short; omega) ends
    rw [List.append_assoc, List.append_assoc, List.append_assoc, List.cons_append, read, skipped]
    simp only [skipped', read_others, Option.bind_eq_bind, Option.bind_some]
    rfl

end Complete

theorem complete (fuel : Nat) : Complete fuel := by
  -- A part is shorter than what it is a part of, so the fuel that is left is above its length.
  induction fuel with
  | zero => exact ⟨nofun, nofun, nofun⟩
  | succ fuel ih => exact ⟨ih.value_succ, ih.items_succ, ih.members_succ⟩

/-! ## Texts -/

/-- A JSON text is read exactly if it spells a value. -/
theorem parse_eq_some_iff {text : Bytes} {node : Node} :
    parse text = some node ↔ TextOf node text := by
  simp only [parse, Option.bind_eq_bind, Option.bind_eq_some_iff, Prod.exists]
  constructor
  · rintro ⟨value, rest, read, h⟩
    split at h
    · rename_i empty
      cases h
      obtain ⟨gap, blanks, hgap⟩ := exists_blanks text
      obtain ⟨gap', blanks', hgap'⟩ := exists_blanks rest
      obtain ⟨s, written, value⟩ := (sound _).value read
      rw [List.isEmpty_iff.1 empty, List.append_nil] at hgap'
      rw [written, hgap', ← List.append_assoc] at hgap
      exact ⟨gap, s, gap', blanks, value, blanks', hgap⟩
    · cases h
  · rintro ⟨gap, s, gap', blanks, value, blanks', rfl⟩
    refine ⟨node, gap', ?_, ?_⟩
    · have solid : Solid (s ++ gap') := by
        obtain ⟨b, tail, rfl, solid, -⟩ := value.head
        exact solid_cons solid
      have ends : Ends gap' := by simpa using Ends.nil.blanks_append blanks'
      rw [List.append_assoc, skipBlanks_append blanks solid]
      exact (complete _).value value (by simp; omega) ends
    · have skipped : skipBlanks gap' = [] := by
        simpa using skipBlanks_append blanks' (s := []) nofun
      rw [skipped]
      rfl

theorem ValueOf.textOf {node : Node} {s : Bytes} (h : ValueOf node s) : TextOf node s :=
  ⟨[], s, [], Blanks.nil, h, Blanks.nil, (List.append_nil s).symm⟩

end QuoteProver.Json
