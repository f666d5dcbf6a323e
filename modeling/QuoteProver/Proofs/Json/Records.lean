import Mathlib.Data.List.Nodup
import QuoteProver.Proofs.Json.Members
import QuoteProver.Proofs.Json.Writing

/-!
# What a record asks of an object

A record is read from an object whose members meet what is asked of them by their names (`Meets`).
`ReadsRecord` says of a reader that it goes by this alone, with what follows from it: neither the order
of the members nor the case of hexadecimal digits nor members of other names make a difference
(`Rearranged`), and nothing is made of an object in which a member is missing, stands twice or is not
hexadecimal where it should be.  `ReadsRecord.of_exact` draws these conclusions for all readers.
-/

namespace QuoteProver.Json

open Node Text

/-! ## Requirements -/

/-- There is one member with the name, and its value is as asked. -/
def Holds (members : Members) (name : String) (asked : Node → Prop) : Prop :=
  ∃ spelling node, Sole members name (spelling, node) ∧ asked node

/-- What is asked of the values of members, by their names. -/
abbrev Requirements := List (String × (Node → Prop))

/-- The members have what is asked of them.  Nothing is asked of members with other names, but that
these are texts. -/
structure Meets (members : Members) (asked : Requirements) : Prop where
  named : ∀ m ∈ members, m.1 ≠ none
  held : ∀ r ∈ asked, Holds members r.1 r.2

/-- The value is a hexadecimal text of the bytes. -/
def HexText (bytes : Bytes) (node : Node) : Prop :=
  ∃ hex : String, node = .string (some hex) ∧ Hex.Denotes hex.toList bytes

theorem holds_iff {members : Members} {name : String} {asked : Node → Prop} :
    Holds members name asked ↔
      ∃ spelling node, members.filter (fun m => m.1 = some name) = [(some name, spelling, node)] ∧
        asked node := by
  simp only [Holds, filter_eq_singleton_iff]

/-- The value that is held is that of any member with the name. -/
theorem Holds.of_mem {members : Members} {name : String} {asked : Node → Prop} {spelling : Bytes}
    {node : Node} (h : Holds members name asked) (mem : (some name, spelling, node) ∈ members) :
    asked node := by
  obtain ⟨spelling', node', once, met⟩ := holds_iff.1 h
  have found : (some name, spelling, node) ∈ members.filter (fun m => m.1 = some name) :=
    List.mem_filter.2 ⟨mem, decide_eq_true rfl⟩
  rw [once] at found
  cases List.mem_singleton.1 found
  exact met

theorem meets_zip_iff {members : Members} {names : List String} {asked : List (Node → Prop)}
    (same : names.length = asked.length) :
    Meets members (names.zip asked) ↔
      (∀ m ∈ members, m.1 ≠ none) ∧ List.Forall₂ (Holds members) names asked := by
  rw [List.forall₂_iff_zip]
  exact ⟨fun h => ⟨h.named, same, fun {_ _} mem => h.held _ mem⟩,
    fun h => ⟨h.1, fun _ mem => h.2.2 mem⟩⟩

theorem hexText_eq (bytes : Bytes) : HexText bytes = fun node => node.hexBytes? = some bytes := by
  funext node
  exact propext hexBytes?_eq_some_iff.symm

theorem found_member_iff {members : Members} {name : String} {α : Type} {read : Node → Option α}
    {value : α} :
    (∃ entry, Found members [] name entry ∧ member read entry = some value) ↔
      Holds members name fun node => read node = some value := by
  constructor
  · rintro ⟨_, found, reads⟩
    obtain ⟨⟨spelling, node⟩, rfl, once⟩ := found_nil_iff.1 found
    exact ⟨spelling, node, once, reads⟩
  · rintro ⟨spelling, node, once, reads⟩
    exact ⟨_, .there once, reads⟩

/-- The values of a record whose members are all read in the same way. -/
theorem record?_mapM_eq_some_iff {names : List String} {members : Members} {α : Type}
    {read : Node → Option α} {values : List α} :
    ((record? names [] (.object members)).bind fun entries => entries.mapM (member read)) = some values ↔
      (∀ m ∈ members, m.1 ≠ none) ∧
        List.Forall₂ (fun name value => Holds members name fun node => read node = some value) names
          values := by
  simp only [Option.bind_eq_some_iff, record?_object_eq_some_iff, mapM_eq_some_iff, and_assoc,
    exists_and_left, ← found_member_iff]
  refine and_congr_right fun _ => ?_
  induction names generalizing values with
  | nil => simp
  | cons name names ih =>
    simp only [List.forall₂_cons_left_iff, ← ih]
    constructor
    · rintro ⟨_, ⟨entry, entries, found, others, rfl⟩, reads⟩
      obtain _ | ⟨read, reads⟩ := reads
      exact ⟨_, _, ⟨entry, found, read⟩, ⟨entries, others, reads⟩, rfl⟩
    · rintro ⟨value, values, ⟨entry, found, read⟩, ⟨entries, others, reads⟩, rfl⟩
      exact ⟨_, ⟨entry, entries, found, others, rfl⟩, .cons read reads⟩

/-- A record of texts under different names has what is asked of these texts. -/
theorem meets_texts {texts : List (String × String)} {asked : Requirements}
    (distinct : (texts.map Prod.fst).Nodup)
    (h : ∀ r ∈ asked, ∃ text, (r.1, text) ∈ texts ∧ r.2 (.string (some text))) :
    Meets (textsMembers texts) asked := by
  refine ⟨fun m mem => ?_, fun r mem => ?_⟩
  · obtain ⟨t, -, rfl⟩ := List.mem_map.1 mem
    exact Option.some_ne_none _
  · obtain ⟨text, written, met⟩ := h r mem
    obtain ⟨before, after, rfl⟩ := List.append_of_mem written
    refine ⟨Utf8.encode (Document.quoted text), _,
      ⟨textsMembers before, textsMembers after, ?_, ?_⟩, met⟩
    · simp only [textsMembers, List.map_append, List.map_cons]
    · rw [textsMembers, textsMembers, ← List.map_append]
      rw [List.map_append, List.map_cons, List.nodup_middle, List.nodup_cons, ← List.map_append]
        at distinct
      intro m others same
      obtain ⟨t, other, rfl⟩ := List.mem_map.1 others
      exact distinct.1 (List.mem_map.2 ⟨t, other, Option.some.inj same⟩)

/-! ## Other ways to write an object -/

/-- Another way to write a member: its value is the same, or a text with digits of another case if its
name is one of the given ones. -/
inductive Rewritten (hexNames : List String) : Option String × Entry → Option String × Entry → Prop
  | same {name : Option String} {spelling spelling' : Bytes} {node : Node} :
      Rewritten hexNames (name, spelling, node) (name, spelling', node)
  | digits {name hex hex' : String} {spelling spelling' : Bytes} : name ∈ hexNames →
      Hex.SameDigits hex.toList hex'.toList →
      Rewritten hexNames (some name, spelling, .string (some hex))
        (some name, spelling', .string (some hex'))

/-- Another way to write an object: its members in any order, with members of other names. -/
def Rearranged (names hexNames : List String) (members members' : Members) : Prop :=
  ∃ rewritten extra, List.Forall₂ (Rewritten hexNames) members rewritten ∧
    (∀ m ∈ extra, ∃ name ∉ names, m.1 = some name) ∧ members'.Perm (rewritten ++ extra)

theorem Rewritten.name_eq {hexNames : List String} {m m' : Option String × Entry}
    (h : Rewritten hexNames m m') : m.1 = m'.1 := by
  cases h <;> rfl

theorem Rewritten.symm {hexNames : List String} {m m' : Option String × Entry}
    (h : Rewritten hexNames m m') : Rewritten hexNames m' m := by
  cases h with
  | same => exact .same
  | digits listed same => exact .digits listed same.symm

/-- What can be asked of a value with the name: the case of digits must not matter where the name is
one of the given ones. -/
def Tolerant (hexNames : List String) (name : String) (asked : Node → Prop) : Prop :=
  name ∈ hexNames → ∃ bytes, asked = HexText bytes

theorem Tolerant.of_rewritten {hexNames : List String} {name : String} {asked : Node → Prop}
    (tolerant : Tolerant hexNames name asked) {spelling spelling' : Bytes} {node node' : Node}
    (h : Rewritten hexNames (some name, spelling, node) (some name, spelling', node'))
    (met : asked node) : asked node' := by
  cases h with
  | same => exact met
  | digits listed same =>
    obtain ⟨bytes, rfl⟩ := tolerant listed
    obtain ⟨hex, h, denotes⟩ := met
    cases h
    exact ⟨_, rfl, denotes.of_sameDigits same⟩

section Rearranging

variable {names hexNames : List String} {members members' : Members}

theorem holds_rewritten {name : String} {asked : Node → Prop} (tolerant : Tolerant hexNames name asked)
    (h : List.Forall₂ (Rewritten hexNames) members members') (holds : Holds members name asked) :
    Holds members' name asked := by
  obtain ⟨spelling, node, once, met⟩ := holds_iff.1 holds
  have filtered := List.rel_filter (R := Rewritten hexNames) (p := fun m => m.1 = some name)
    (q := fun m => m.1 = some name) (fun m m' h => by simp [h.name_eq]) h
  rw [once] at filtered
  obtain ⟨m', _, rewritten, rest, filtered⟩ := List.forall₂_cons_left_iff.1 filtered
  cases rest
  obtain ⟨name', spelling', node'⟩ := m'
  obtain rfl : some name = name' := rewritten.name_eq
  exact holds_iff.2 ⟨spelling', node', filtered, tolerant.of_rewritten rewritten met⟩

theorem holds_perm {name : String} {asked : Node → Prop} (h : members.Perm members')
    (holds : Holds members name asked) : Holds members' name asked := by
  obtain ⟨spelling, node, once, met⟩ := holds_iff.1 holds
  have filtered := h.filter fun m => m.1 = some name
  rw [once] at filtered
  exact holds_iff.2 ⟨spelling, node, List.perm_singleton.1 filtered.symm, met⟩

theorem holds_append_iff {name : String} {asked : Node → Prop} {extra : Members}
    (others : ∀ m ∈ extra, m.1 ≠ some name) :
    Holds (members ++ extra) name asked ↔ Holds members name asked := by
  have none_found : extra.filter (fun m => m.1 = some name) = [] :=
    List.filter_eq_nil_iff.2 (by simpa using others)
  simp only [holds_iff, List.filter_append, none_found, List.append_nil]

theorem named_rewritten_iff (h : List.Forall₂ (Rewritten hexNames) members members') :
    (∀ m ∈ members, m.1 ≠ none) ↔ ∀ m ∈ members', m.1 ≠ none := by
  have same : members.map Prod.fst = members'.map Prod.fst := by
    rw [← List.forall₂_eq_eq_eq, List.forall₂_map_left_iff, List.forall₂_map_right_iff]
    exact h.imp fun _ _ => Rewritten.name_eq
  have by_names (members : Members) :
      (∀ m ∈ members, m.1 ≠ none) ↔ none ∉ members.map Prod.fst := by
    rw [List.mem_map]
    exact ⟨fun h ⟨m, mem, absent⟩ => h m mem absent, fun h m mem absent => h ⟨m, mem, absent⟩⟩
  rw [by_names, by_names, same]

theorem meets_rearranged_iff {asked : Requirements} (known : ∀ r ∈ asked, r.1 ∈ names)
    (tolerant : ∀ r ∈ asked, Tolerant hexNames r.1 r.2)
    (h : Rearranged names hexNames members members') : Meets members asked ↔ Meets members' asked := by
  obtain ⟨rewritten, extra, each, others, perm⟩ := h
  have back := List.Forall₂.flip (each.imp fun _ _ => Rewritten.symm)
  have named : (∀ m ∈ members, m.1 ≠ none) ↔ ∀ m ∈ members', m.1 ≠ none := by
    have texts : ∀ m ∈ extra, m.1 ≠ none := fun m mem absent => by
      obtain ⟨name, -, named⟩ := others m mem
      cases named.symm.trans absent
    rw [named_rewritten_iff each]
    simp only [perm.mem_iff, List.forall_mem_append]
    exact (and_iff_left texts).symm
  have held (r) (mem : r ∈ asked) : Holds members r.1 r.2 ↔ Holds members' r.1 r.2 := by
    have elsewhere : ∀ m ∈ extra, m.1 ≠ some r.1 := fun m hm same => by
      obtain ⟨name, other, named⟩ := others m hm
      obtain rfl : name = r.1 := Option.some.inj (named.symm.trans same)
      exact other (known r mem)
    calc Holds members r.1 r.2
        ↔ Holds rewritten r.1 r.2 :=
          ⟨holds_rewritten (tolerant r mem) each, holds_rewritten (tolerant r mem) back⟩
      _ ↔ Holds (rewritten ++ extra) r.1 r.2 := (holds_append_iff elsewhere).symm
      _ ↔ Holds members' r.1 r.2 := ⟨holds_perm perm.symm, holds_perm perm⟩
  constructor
  · rintro ⟨texts, all⟩
    exact ⟨named.1 texts, fun r mem => (held r mem).1 (all r mem)⟩
  · rintro ⟨texts, all⟩
    exact ⟨named.2 texts, fun r mem => (held r mem).2 (all r mem)⟩

end Rearranging

/-! ## Readers -/

/-- The reader makes of the text of an object what its members say, and this alone: names are those of
the members that it asks for, and some of these are to be hexadecimal texts. -/
structure ReadsRecord {α : Type} (read : Bytes → Option α) (names hexNames : List String)
    (asked : α → Requirements) : Prop where
  /-- A value is made of the members that say so. -/
  exact {members : Members} {text : Bytes} (object : TextOf (.object members) text) (a : α) :
    read text = some a ↔ Meets members (asked a)
  /-- The order of the members, other members and the case of digits make no difference. -/
  rearranged {members members' : Members} {text text' : Bytes}
    (object : TextOf (.object members) text) (object' : TextOf (.object members') text')
    (h : Rearranged names hexNames members members') : read text = read text'
  /-- Nothing is made of an object without one of the members. -/
  missing {members : Members} {text : Bytes} (object : TextOf (.object members) text)
    {name : String} (known : name ∈ names) (h : ∀ m ∈ members, m.1 ≠ some name) : read text = none
  /-- Nothing is made of an object in which one of the members stands twice. -/
  repeated {members : Members} {text : Bytes} (object : TextOf (.object members) text)
    {name : String} (known : name ∈ names) {before between after : Members} {entry entry' : Entry}
    (h : members = before ++ (some name, entry) :: between ++ (some name, entry') :: after) :
    read text = none
  /-- Nothing is made of an object in which a text that is to be hexadecimal has an odd number of
  characters, or one that is no digit. -/
  stray {members : Members} {text : Bytes} (object : TextOf (.object members) text)
    {name hex : String} {spelling : Bytes} (known : name ∈ hexNames)
    (mem : (some name, spelling, .string (some hex)) ∈ members)
    (h : hex.toList.length % 2 = 1 ∨ ∃ c ∈ hex.toList, ∀ value, ¬ Hex.IsDigit c value) :
    read text = none

/-- It is enough that a reader goes by what it asks for, always under the same names, and that it asks
for hexadecimal texts where it should. -/
theorem ReadsRecord.of_exact {α : Type} {read : Bytes → Option α} {names hexNames : List String}
    {asked : α → Requirements}
    (exact : ∀ {members text}, TextOf (.object members) text →
      ∀ a, read text = some a ↔ Meets members (asked a))
    (sameNames : ∀ a, (asked a).map Prod.fst = names) (listed : ∀ name ∈ hexNames, name ∈ names)
    (tolerant : ∀ a, ∀ r ∈ asked a, Tolerant hexNames r.1 r.2) :
    ReadsRecord read names hexNames asked := by
  have holds {members text a name} (object : TextOf (.object members) text) (known : name ∈ names)
      (h : read text = some a) : ∃ P, Holds members name P ∧ Tolerant hexNames name P := by
    rw [← sameNames a] at known
    obtain ⟨r, mem, rfl⟩ := List.mem_map.1 known
    exact ⟨r.2, ((exact object a).1 h).held r mem, tolerant a r mem⟩
  refine ⟨exact, fun object object' h => ?_, fun object name known absent => ?_,
    fun object name known before between after entry entry' h => ?_,
    fun object name hex spelling known mem h => ?_⟩
  · refine Option.ext fun a => ?_
    have known : ∀ r ∈ asked a, r.1 ∈ names := fun r mem => by
      rw [← sameNames a]
      exact List.mem_map_of_mem mem
    rw [exact object, exact object', meets_rearranged_iff known (tolerant a) h]
  · refine Option.eq_none_iff_forall_ne_some.2 fun a made => ?_
    obtain ⟨P, ⟨_, _, ⟨before, after, rfl, -⟩, -⟩, -⟩ := holds object known made
    exact absent _ (List.mem_append_right before List.mem_cons_self) rfl
  · refine Option.eq_none_iff_forall_ne_some.2 fun a made => ?_
    obtain ⟨P, held, -⟩ := holds object known made
    obtain ⟨_, _, once, -⟩ := holds_iff.1 held
    have count := congrArg List.length once
    subst h
    simp only [List.filter_append, List.filter_cons, decide_true, if_true, List.length_append,
      List.length_cons, List.length_nil] at count
    omega
  · refine Option.eq_none_iff_forall_ne_some.2 fun a made => ?_
    obtain ⟨P, held, tolerant⟩ := holds object (listed name known) made
    obtain ⟨bytes, rfl⟩ := tolerant known
    obtain ⟨hex', same, denotes⟩ := held.of_mem mem
    cases same
    obtain ⟨even, digits⟩ := denotes.digits
    obtain odd | ⟨c, hc, stray⟩ := h
    · omega
    · obtain ⟨value, digit⟩ := digits c hc
      exact stray value digit

/-- What is written as texts is read, in one line or over several, if it is what is asked. -/
theorem ReadsRecord.read_texts {α : Type} {read : Bytes → Option α} {names hexNames : List String}
    {asked : α → Requirements} (reads : ReadsRecord read names hexNames asked) {a : α}
    {texts : List (String × String)} (meets : Meets (textsMembers texts) (asked a)) :
    read (Utf8.encode (textsDocument texts).compact) = some a ∧
      read (Utf8.encode (textsDocument texts).pretty) = some a :=
  ⟨(reads.exact (valueOf_compact_texts texts).textOf a).2 meets,
    (reads.exact (valueOf_pretty_texts texts).textOf a).2 meets⟩

end QuoteProver.Json
