import Mathlib.Data.List.Forall2
import QuoteProver.Json.Record
import QuoteProver.Proofs.Json.Reading
import QuoteProver.Proofs.Text.Hex

/-!
# Members of records

A record is read from an object by the names of its members.  Each of them has to be there once
(`record?_object_eq_some_iff`); the other members and the order of all of them do not matter.  The
value of a member is a part of the text of the object (`TextOf.slot`): with another value in its
place, the text is that of the object with that value, and nothing else changes.
-/

namespace QuoteProver.Json

open Node

/-- The members of an object: their names, where these are texts, and their values. -/
abbrev Members := List (Option String × Entry)

/-- The members of an object. -/
def members? : Node → Option Members
  | .object members => some members
  | _ => none

theorem members?_eq_some_iff {node : Node} {members : Members} :
    members? node = some members ↔ node = .object members := by
  cases node <;> simp [members?]

/-! ## Looking for a name -/

/-- There is one member with the name, and this is its value. -/
def Sole (members : Members) (name : String) (entry : Entry) : Prop :=
  ∃ before after, members = before ++ (some name, entry) :: after ∧
    ∀ m ∈ before ++ after, m.1 ≠ some name

theorem filter_eq_singleton_iff {members : Members} {name : String} {entry : Entry} :
    members.filter (fun m => m.1 = some name) = [(some name, entry)] ↔ Sole members name entry := by
  simp only [List.filter_eq_cons_iff, List.filter_eq_nil_iff, decide_eq_true_eq, true_and]
  constructor
  · rintro ⟨before, after, rfl, first, rest⟩
    exact ⟨before, after, rfl, List.forall_mem_append.2 ⟨first, rest⟩⟩
  · rintro ⟨before, after, rfl, others⟩
    exact ⟨before, after, rfl, List.forall_mem_append.1 others⟩

/-- What is found for a name: the value of its only member, or nothing if it has a default. -/
inductive Found (members : Members) (defaults : List String) : String → Option Entry → Prop
  | there {name : String} {entry : Entry} : Sole members name entry →
      Found members defaults name (some entry)
  | missing {name : String} : (∀ m ∈ members, m.1 ≠ some name) → name ∈ defaults →
      Found members defaults name none

theorem found_nil_iff {members : Members} {name : String} {found : Option Entry} :
    Found members [] name found ↔ ∃ entry, found = some entry ∧ Sole members name entry := by
  constructor
  · rintro (once | ⟨-, listed⟩)
    · exact ⟨_, rfl, once⟩
    · cases listed
  · rintro ⟨entry, rfl, once⟩
    exact .there once

/-- Looks for the only member with a name. -/
def find? (members : Members) (defaults : List String) (name : String) : Option (Option Entry) :=
  match members.filter fun m => m.1 = some name with
  | [] => if name ∈ defaults then some none else none
  | [(_, entry)] => some (some entry)
  | _ => none

theorem find?_eq_some_iff {members : Members} {defaults : List String} {name : String}
    {found : Option Entry} :
    find? members defaults name = some found ↔ Found members defaults name found := by
  unfold find?
  constructor
  · intro h
    split at h
    · rename_i nowhere
      split at h
      · rename_i default
        cases h
        exact .missing (by simpa using List.filter_eq_nil_iff.1 nowhere) default
      · cases h
    · rename_i name' entry once
      cases h
      have named := List.of_mem_filter (once ▸ List.mem_cons_self : (name', entry) ∈ _)
      obtain rfl : name' = some name := by simpa using named
      exact .there (filter_eq_singleton_iff.1 once)
    · cases h
  · rintro (once | ⟨nowhere, default⟩)
    · rw [filter_eq_singleton_iff.2 once]
    · have none_found : members.filter (fun m => m.1 = some name) = [] :=
        List.filter_eq_nil_iff.2 (by simpa using nowhere)
      rw [none_found]
      exact if_pos default

theorem mapM_eq_some_iff {α β : Type} {f : α → Option β} {xs : List α} {ys : List β} :
    xs.mapM f = some ys ↔ List.Forall₂ (fun x y => f x = some y) xs ys := by
  induction xs generalizing ys with
  | nil => simp [eq_comm]
  | cons x xs ih =>
    rw [List.mapM_cons, List.forall₂_cons_left_iff]
    simp only [Option.bind_eq_bind, Option.bind_eq_some_iff, ih]
    constructor
    · rintro ⟨y, hy, ys', hys, last⟩
      cases last
      exact ⟨y, ys', hy, hys, rfl⟩
    · rintro ⟨y, ys', hy, hys, rfl⟩
      exact ⟨y, hy, ys', hys, rfl⟩

theorem record?_object (names defaults : List String) (members : Members) :
    record? names defaults (.object members) =
      if members.any (·.1.isNone) then none else names.mapM (find? members defaults) :=
  rfl

/-- A record is read from an object if its names are texts and each name of the record is found. -/
theorem record?_object_eq_some_iff {names defaults : List String} {members : Members}
    {entries : List (Option Entry)} :
    record? names defaults (.object members) = some entries ↔
      (∀ m ∈ members, m.1 ≠ none) ∧ List.Forall₂ (Found members defaults) names entries := by
  have strange : members.any (·.1.isNone) = true ↔ ¬ ∀ m ∈ members, m.1 ≠ none := by simp
  rw [record?_object]
  by_cases texts : ∀ m ∈ members, m.1 ≠ none
  · rw [if_neg (mt strange.1 (not_not_intro texts)), mapM_eq_some_iff]
    simp only [find?_eq_some_iff]
    exact (and_iff_right texts).symm
  · rw [if_pos (strange.2 texts)]
    exact ⟨nofun, fun h => absurd h.1 texts⟩

/-! ## Byte strings -/

theorem hexBytes?_eq_some_iff {node : Node} {bytes : Bytes} :
    node.hexBytes? = some bytes ↔
      ∃ hex, node = .string (some hex) ∧ Text.Hex.Denotes hex.toList bytes := by
  have decoded {hex : String} :
      (Text.Hex.decode hex).toOption = some bytes ↔ Text.Hex.Denotes hex.toList bytes := by
    rw [← Text.Hex.decode_eq_ok_iff]
    cases Text.Hex.decode hex <;> simp [Except.toOption]
  simp only [hexBytes?, Option.bind_eq_bind, Option.bind_eq_some_iff, decoded]
  cases node with
  | string text => cases text <;> simp [text?]
  | _ => simp [text?]

/-! ## The place of a value -/

/-- Between `front` and `behind` stands the value of the member with the name, which comes after the
members `before` and before the members `after`: whatever value is put there, it is the value of that
member, and the others stay as they are. -/
def Slot (before : Members) (name : Option String) (after : Members) (front behind : Bytes) : Prop :=
  ∀ {node s}, ValueOf node s →
    TextOf (.object (before ++ (name, s, node) :: after)) (front ++ s ++ behind)

/-- Another member in the place of one leaves the others as they are. -/
theorem MembersOf.replace {before after : Members} {member : Option String × Entry} {t : Bytes}
    (h : MembersOf (before ++ member :: after) t) :
    ∃ front m behind, MemberOf member m ∧ t = front ++ m ++ behind ∧
      ∀ {member' m'}, MemberOf member' m' →
        MembersOf (before ++ member' :: after) (front ++ m' ++ behind) := by
  induction before generalizing t with
  | nil =>
    cases h with
    | @last m gap _ spelt blanks =>
      exact ⟨[], m, gap ++ [0x7D], spelt, List.append_assoc .., fun spelt' => by
        simpa using MembersOf.last spelt' blanks⟩
    | @cons m gap gap' t _ _ spelt blanks blanks' others =>
      refine ⟨[], m, gap ++ 0x2C :: gap' ++ t, spelt, by simp, fun spelt' => ?_⟩
      simpa using MembersOf.cons spelt' blanks blanks' others
  | cons first before ih =>
    rw [List.cons_append] at h
    generalize hall : before ++ member :: after = all at h
    cases h with
    | last => simp at hall
    | @cons m gap gap' t _ _ spelt blanks blanks' others =>
      subst hall
      obtain ⟨front, m', behind, spelt', rfl, put⟩ := ih others
      refine ⟨m ++ gap ++ 0x2C :: gap' ++ front, m', behind, spelt', by simp, fun other => ?_⟩
      simpa using MembersOf.cons spelt blanks blanks' (put other)

/-- The value of a member stands in the text. -/
theorem TextOf.slot {before after : Members} {name : Option String} {s : Bytes} {node : Node}
    {t : Bytes} (h : TextOf (.object (before ++ (name, s, node) :: after)) t) :
    ∃ front behind, t = front ++ s ++ behind ∧ ValueOf node s ∧ Slot before name after front behind := by
  obtain ⟨outer, _, outer', blanks, value, blanks', rfl⟩ := h
  generalize hall : before ++ (name, s, node) :: after = all at value
  cases value with
  | emptyObject => simp at hall
  | @object _ gap t inner spelt =>
    subst hall
    obtain ⟨front, _, behind, member, rfl, put⟩ := spelt.replace
    obtain @⟨_, k, gap₁, gap₂, _, _, named, blanks₁, blanks₂, value⟩ := member
    refine ⟨outer ++ 0x7B :: gap ++ front ++ k ++ gap₁ ++ 0x3A :: gap₂, behind ++ outer',
      by simp, value, fun value' => ?_⟩
    have spelt' := put (.mk named blanks₁ blanks₂ value')
    exact ⟨outer, _, outer', blanks, .object inner spelt', blanks', by simp⟩

/-! ## The ends of a value -/

/-- No white space stands at either end. -/
def Trimmed (s : Bytes) : Prop := Solid s ∧ ∀ b ∈ s.getLast?, isBlank b = false

theorem last_append {s t : Bytes} {b : UInt8} (h : t.getLast? = some b) :
    (s ++ t).getLast? = some b := by
  rw [List.getLast?_append, h, Option.some_or]

theorem ItemsOf.last_byte {items : List (Bytes × Node)} {s : Bytes} (h : ItemsOf items s) :
    s.getLast? = some 0x5D := by
  induction items generalizing s with
  | nil => cases h
  | cons item items ih =>
    cases h with
    | last => exact List.getLast?_concat
    | cons _ _ _ others => exact last_append (ih others)

theorem MembersOf.last_byte {members : Members} {s : Bytes} (h : MembersOf members s) :
    s.getLast? = some 0x7D := by
  induction members generalizing s with
  | nil => cases h
  | cons member members ih =>
    cases h with
    | last => exact List.getLast?_concat
    | cons _ _ _ others => exact last_append (ih others)

theorem DigitsOf.last_byte {digits : List Nat} {s : Bytes} (h : DigitsOf digits s) :
    ∃ b, s.getLast? = some b ∧ isDigit b = true := by
  obtain ⟨nonempty, all, -⟩ := h
  exact ⟨_, List.getLast?_eq_some_getLast nonempty, all _ (List.getLast_mem nonempty)⟩

theorem NumberOf.last_byte {n : Number} {s : Bytes} (h : NumberOf n s) :
    ∃ b, s.getLast? = some b ∧ isDigit b = true := by
  -- The last digits are those of the exponent, of the fraction or in front of the point.
  obtain ⟨-, whole, -, fraction, exponent⟩ := h
  cases exponent with
  | letter _ _ digits =>
    obtain ⟨b, last, digit⟩ := digits.last_byte
    exact ⟨b, last_append (last_append last), digit⟩
  | none =>
    rw [List.append_nil]
    cases fraction with
    | @point _ s digits =>
      obtain ⟨b, last, digit⟩ := digits.last_byte
      have behind_point : (0x2E :: s).getLast? = some b := last_append (s := [0x2E]) last
      exact ⟨b, last_append behind_point, digit⟩
    | none =>
      obtain ⟨b, last, digit⟩ := whole.last_byte
      rw [List.append_nil]
      exact ⟨b, last_append last, digit⟩

/-- A byte that a value can start or end with: a character by itself, and no white space. -/
def Edge (b : UInt8) : Prop := isBlank b = false ∧ b.toNat < 0x80

theorem edge_of_isDigit {b : UInt8} (h : isDigit b = true) : Edge b := by
  refine ⟨not_blank_of_isDigit h, ?_⟩
  simp only [isDigit, Bool.and_eq_true, decide_eq_true_eq, UInt8.le_iff_toNat_le,
    UInt8.reduceToNat] at h
  omega

theorem ValueOf.edges {node : Node} {s : Bytes} (h : ValueOf node s) :
    ∃ first last, s.head? = some first ∧ s.getLast? = some last ∧ Edge first ∧ Edge last := by
  have mark {b : UInt8} (solid : isBlank b = false) (ascii : b.toNat < 0x80) : Edge b :=
    ⟨solid, ascii⟩
  cases h with
  | number number =>
    obtain ⟨last, ends, digit⟩ := number.last_byte
    obtain ⟨first, tail, rfl, first_eq⟩ := number.head
    refine ⟨_, _, rfl, ends, ?_, edge_of_isDigit digit⟩
    obtain rfl | digit' := first_eq
    · exact mark rfl (by decide)
    · exact edge_of_isDigit digit'
  | string string =>
    cases string
    exact ⟨_, _, rfl, List.getLast?_concat, mark rfl (by decide), mark rfl (by decide)⟩
  | emptyArray | emptyObject =>
    exact ⟨_, _, rfl, List.getLast?_concat, mark rfl (by decide), mark rfl (by decide)⟩
  | array _ items =>
    exact ⟨_, _, rfl, last_append items.last_byte, mark rfl (by decide), mark rfl (by decide)⟩
  | object _ members =>
    exact ⟨_, _, rfl, last_append members.last_byte, mark rfl (by decide), mark rfl (by decide)⟩
  | null | boolTrue | boolFalse =>
    exact ⟨_, _, rfl, rfl, mark rfl (by decide), mark rfl (by decide)⟩

theorem ValueOf.trimmed {node : Node} {s : Bytes} (h : ValueOf node s) : Trimmed s := by
  obtain ⟨first, last, starts, ends, ⟨solid, -⟩, solid', -⟩ := h.edges
  constructor
  · rw [Solid, starts]
    rintro _ ⟨⟩
    exact solid
  · rw [ends]
    rintro _ ⟨⟩
    exact solid'

/-- The spelling of a value in a text is a text. -/
theorem TextOf.exists_encode {members : Members} {name : String} {entry : Entry} {text : String}
    (h : TextOf (.object members) (Text.Utf8.encode text)) (once : Sole members name entry) :
    ∃ raw, entry.1 = Text.Utf8.encode raw := by
  obtain ⟨s, node⟩ := entry
  obtain ⟨before, after, rfl, -⟩ := once
  obtain ⟨front, behind, written, value, -⟩ := h.slot
  obtain ⟨first, last, starts, ends, hfirst, hlast⟩ := value.edges
  exact Text.Utf8.exists_encode_of_part written starts ends hfirst.2 hlast.2

end QuoteProver.Json
