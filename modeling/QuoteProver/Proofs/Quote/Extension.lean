import QuoteProver.Proofs.Der.Encoding
import QuoteProver.Proofs.Quote.Chain

/-!
# The platform extension as it is written

An extension is a sequence of entries, each a sequence that starts with an identifier and a value.
`platformEntries_split` says that written entries are read back in full and in their order, that
nothing but such an extension is read, and that one part of another form breaks the whole.
-/

namespace QuoteProver

namespace Der.Oid

/-- The contents pass the check of identifiers. -/
def Valid (id : Oid) : Prop := ofBytes? id.bytes = some id

theorem ofBytes?_eq_some_iff {bytes : Bytes} {id : Oid} :
    ofBytes? bytes = some id ↔ id.Valid ∧ bytes = id.bytes := by
  constructor
  · intro h
    have same : bytes = id.bytes := by
      unfold ofBytes? at h
      split at h
      · cases h
        rfl
      · cases h
    exact ⟨by rwa [Valid, ← same], same⟩
  · rintro ⟨valid, rfl⟩
    exact valid

end Der.Oid

namespace Quote

open Der

/-- The tag of identifiers. -/
def oidTag : UInt8 := 0x06

/-- An entry as it is written: behind the identifier and the value there may be further elements. -/
structure WrittenEntry where
  id : Oid
  value : Element
  further : List Element

namespace WrittenEntry

def element (w : WrittenEntry) : Element :=
  .sequence (⟨oidTag, w.id.bytes⟩ :: w.value :: w.further)

/-- What the entry says. -/
def entry (w : WrittenEntry) : PlatformEntry := ⟨w.id, w.value.contents⟩

end WrittenEntry

/-- The extension with the given entries. -/
def extensionOf (written : List WrittenEntry) : Element :=
  .sequence (written.map WrittenEntry.element)

/-- The part is a sequence of at least two elements, of which the first one has the contents of the
identifier and the second one those of the value. -/
def Spells (part : Element) (entry : PlatformEntry) : Prop :=
  ∃ id value further, part = .sequence (id :: value :: further) ∧
    (entry.id.Valid ∧ id.contents = entry.id.bytes) ∧ value.contents = entry.value

/-! ## Sequences -/

/-- The parts of a sequence are the elements that it is made of. -/
theorem sequenceOf_iff {e : Element} (fits : e.Fits) {parts : List Element} :
    SequenceOf e parts ↔ e = .sequence parts := by
  rw [SequenceOf, elements_eq_some_iff, Element.sequence]
  constructor
  · rintro ⟨tag, written, -⟩
    cases e
    cases tag
    cases written
    rfl
  · rintro rfl
    exact ⟨rfl, rfl, fun _ mem => fits.of_mem mem⟩

theorem entryOf_iff {part : Element} (fits : part.Fits) {entry : PlatformEntry} :
    EntryOf part entry ↔ Spells part entry := by
  simp only [EntryOf, Spells, sequenceOf_iff fits, Oid.ofBytes?_eq_some_iff]

theorem forall₂_entryOf_iff {parts : List Element} (fits : (Element.sequence parts).Fits)
    {entries : List PlatformEntry} :
    List.Forall₂ EntryOf parts entries ↔ List.Forall₂ Spells parts entries := by
  have all : ∀ part ∈ parts, part.Fits := fun _ mem => fits.of_mem mem
  constructor
  · intro h
    exact ((List.forall₂_and_left parts entries).2 ⟨all, h⟩).imp
      fun part entry ⟨fits, h⟩ => (entryOf_iff fits).1 h
  · intro h
    exact ((List.forall₂_and_left parts entries).2 ⟨all, h⟩).imp
      fun part entry ⟨fits, h⟩ => (entryOf_iff fits).2 h

/-! ## Extensions -/

/-- The sequence at the front of a byte string spells the entries, one part each. -/
def SpellsAll (raw : Bytes) (entries : List PlatformEntry) : Prop :=
  ∃ parts behind, (Element.sequence parts).Fits ∧
    raw = (Element.sequence parts).encode ++ behind ∧ List.Forall₂ Spells parts entries

theorem entriesOf_iff {raw : Bytes} {entries : List PlatformEntry} :
    EntriesOf raw entries ↔ SpellsAll raw entries := by
  simp only [EntriesOf, SpellsAll, Element.read_eq_some_iff]
  constructor
  · rintro ⟨outer, behind, parts, ⟨rfl, fits⟩, hparts, hentries⟩
    obtain rfl := (sequenceOf_iff fits).1 hparts
    exact ⟨parts, behind, fits, rfl, (forall₂_entryOf_iff fits).1 hentries⟩
  · rintro ⟨parts, behind, fits, rfl, hentries⟩
    exact ⟨_, behind, parts, ⟨rfl, fits⟩, (sequenceOf_iff fits).2 rfl,
      (forall₂_entryOf_iff fits).2 hentries⟩

theorem spellsAll_extensionOf {written : List WrittenEntry} (behind : Bytes)
    (valid : ∀ w ∈ written, w.id.Valid) (fits : (extensionOf written).Fits) :
    SpellsAll ((extensionOf written).encode ++ behind) (written.map WrittenEntry.entry) := by
  refine ⟨written.map WrittenEntry.element, behind, fits, rfl, ?_⟩
  rw [List.forall₂_map_left_iff, List.forall₂_map_right_iff, List.forall₂_same]
  intro w mem
  exact ⟨_, w.value, w.further, rfl, ⟨valid w mem, rfl⟩, rfl⟩

/-- A byte string starts with the sequence of one list of parts at most. -/
theorem SpellsAll.of_sequence {parts : List Element} {behind : Bytes} {entries : List PlatformEntry}
    (fits : (Element.sequence parts).Fits)
    (h : SpellsAll ((Element.sequence parts).encode ++ behind) entries) :
    List.Forall₂ Spells parts entries := by
  obtain ⟨outer, _, parts', read, hparts', hentries⟩ := entriesOf_iff.2 h
  obtain ⟨rfl, -⟩ := Prod.mk.inj
    (Option.some.inj ((Element.read_eq_some_iff.2 ⟨rfl, fits⟩).symm.trans read))
  obtain ⟨-, found⟩ := hparts'
  obtain rfl := Option.some.inj (((sequenceOf_iff fits).2 rfl).2.symm.trans found)
  exact (forall₂_entryOf_iff fits).1 hentries

/-! ## Faults -/

theorem EntryFault.asn1 {e : Element} {failure : Failure} (h : EntryFault e failure) :
    ∃ place, failure = .asn1 place := by
  cases h <;> exact ⟨_, rfl⟩

theorem EntriesFault.asn1 {raw : Bytes} {failure : Failure} (h : EntriesFault raw failure) :
    ∃ place, failure = .asn1 place := by
  cases h with
  | element => exact ⟨_, rfl⟩
  | sequence => exact ⟨_, rfl⟩
  | entry _ _ _ fault => exact fault.asn1

/-- A byte string that does not spell entries is an ASN.1 failure. -/
theorem platformEntries_of_not_spellsAll {raw : Bytes} (h : ∀ entries, ¬ SpellsAll raw entries) :
    ∃ place, platformEntries raw = .error (.asn1 place) := by
  cases result : platformEntries raw with
  | ok entries => exact absurd (entriesOf_iff.1 (platformEntries_eq_ok_iff.1 result)) (h entries)
  | error failure =>
    obtain ⟨place, rfl⟩ := (platformEntries_eq_error_iff.1 result).asn1
    exact ⟨place, rfl⟩

/-- Written entries are read back in full and in their order, whatever the values, the further
elements and the bytes behind the extension are.  What is read is spelt like this: one entry for
each part of the sequence at the front, with the contents of the first two elements of that part.
If one part is of another form, nothing is read. -/
theorem platformEntries_split :
    (∀ written behind, (∀ w ∈ written, w.id.Valid) → (extensionOf written).Fits →
      platformEntries ((extensionOf written).encode ++ behind) =
        .ok (written.map WrittenEntry.entry)) ∧
    (∀ raw entries, platformEntries raw = .ok entries ↔ SpellsAll raw entries) ∧
    (∀ parts behind, (Element.sequence parts).Fits →
      (∃ part ∈ parts, ∀ entry, ¬ Spells part entry) →
      ∃ place, platformEntries ((Element.sequence parts).encode ++ behind) =
        .error (.asn1 place)) := by
  have read (raw : Bytes) (entries : List PlatformEntry) :
      platformEntries raw = .ok entries ↔ SpellsAll raw entries :=
    platformEntries_eq_ok_iff.trans entriesOf_iff
  refine ⟨fun written behind valid fits => ?_, read, ?_⟩
  · exact (read _ _).2 (spellsAll_extensionOf behind valid fits)
  · rintro parts behind fits ⟨part, mem, strange⟩
    refine platformEntries_of_not_spellsAll fun entries h => ?_
    obtain ⟨i, hi, rfl⟩ := List.getElem_of_mem mem
    have pairs := h.of_sequence fits
    have hi' : i < entries.length := by rwa [← pairs.length_eq]
    exact strange entries[i] (pairs.get hi hi')

namespace Sample

/-- Two entries: one with a long value and an element behind it, one whose value has parts. -/
def written : List WrittenEntry :=
  [⟨fmspcEntry, ⟨0x04, List.replicate 300 7⟩, [⟨0x05, []⟩]⟩,
    ⟨commonName, .sequence [⟨0x02, [1]⟩, ⟨0x02, [2]⟩], []⟩]

end Sample

theorem platformEntries_split_sample :
    (∀ w ∈ Sample.written, w.id.Valid) ∧ (extensionOf Sample.written).Fits ∧
      platformEntries ((extensionOf Sample.written).encode ++ [0x30, 0xFF]) =
        .ok [⟨fmspcEntry, List.replicate 300 7⟩, ⟨commonName, [0x02, 0x01, 1, 0x02, 0x01, 2]⟩] := by
  have valid : ∀ w ∈ Sample.written, w.id.Valid := by
    simp only [Sample.written, List.forall_mem_cons, Oid.Valid]
    decide +kernel
  have fits : (extensionOf Sample.written).Fits := by
    unfold Element.Fits
    decide +kernel
  refine ⟨valid, fits, (platformEntries_split.1 Sample.written [0x30, 0xFF] valid fits).trans ?_⟩
  decide +kernel

end Quote

end QuoteProver
