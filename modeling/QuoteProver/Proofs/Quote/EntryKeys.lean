import QuoteProver.Proofs.Quote.Extension

/-!
# What the entries of a platform extension are filed under

An entry starts with its key, and the reader looks at the contents of a key alone: a key stands for the
identifier with these contents (`platformEntries_of_keyedBy`), whatever its tag is.  So an extension whose
keys are identifiers is read under them, but the tags of the keys may be changed at will
(`platformEntries_by_key_contents`), and an octet string with the contents of an identifier passes for
it (`octets_pass_for_identifier`).
-/

namespace QuoteProver

namespace Der

theorem Element.length_encode (e : Element) :
    e.encode.length = (encodeLength e.contents.length).length + e.contents.length + 1 := by
  simp only [encode, List.cons_append, List.length_cons, List.length_append]

instance : DecidablePred Oid.Valid := fun id =>
  inferInstanceAs (Decidable (Oid.ofBytes? id.bytes = some id))

theorem Oid.ofBytes?_eq_none_iff {bytes : Bytes} : ofBytes? bytes = none ↔ ¬ (mk bytes).Valid := by
  constructor
  · intro refused valid
    cases refused.symm.trans valid
  · intro invalid
    refine Option.eq_none_iff_forall_ne_some.2 fun id found => invalid ?_
    obtain ⟨valid, rfl⟩ := ofBytes?_eq_some_iff.1 found
    exact valid

end Der

namespace Quote

open Der

/-- An entry as it stands in an extension: its key may be an element of any type. -/
structure KeyedEntry where
  key : Element
  value : Element
  further : List Element

namespace KeyedEntry

def element (k : KeyedEntry) : Element := .sequence (k.key :: k.value :: k.further)

/-- The identifier with the contents of the key; it is valid if they are those of one. -/
def id (k : KeyedEntry) : Oid := ⟨k.key.contents⟩

/-- What the entry says when its key is taken for an identifier. -/
def entry (k : KeyedEntry) : PlatformEntry := ⟨k.id, k.value.contents⟩

/-- The key is the identifier of what was read, its tag included. -/
def FiledUnder (k : KeyedEntry) (entry : PlatformEntry) : Prop := k.key = ⟨oidTag, entry.id.bytes⟩

/-- The same entry with its key under another tag. -/
def retag (tag : UInt8) (k : KeyedEntry) : KeyedEntry := { k with key := { k.key with tag } }

end KeyedEntry

/-- The extension with the given entries. -/
def keyedExtension (keyed : List KeyedEntry) : Element := .sequence (keyed.map KeyedEntry.element)

/-- The byte string starts with the extension that has the given entries. -/
def KeyedBy (raw : Bytes) (keyed : List KeyedEntry) : Prop :=
  ∃ behind, (keyedExtension keyed).Fits ∧ raw = (keyedExtension keyed).encode ++ behind

theorem KeyedBy.fits {raw : Bytes} {keyed : List KeyedEntry} (h : KeyedBy raw keyed) :
    (keyedExtension keyed).Fits := by
  obtain ⟨_, fits, _⟩ := h
  exact fits

/-- The second list has the entries of the first one, with their keys under any tags. -/
def Retagged : List KeyedEntry → List KeyedEntry → Prop :=
  List.Forall₂ fun k k' => ∃ tag, k' = k.retag tag

/-! ## Entries by the contents of their keys -/

theorem platformEntry_element {k : KeyedEntry} (fits : k.element.Fits) :
    platformEntry k.element =
      if k.id.Valid then .ok k.entry else .error (.asn1 "SGX extension entry oid") := by
  have parts : SequenceOf k.element (k.key :: k.value :: k.further) := (sequenceOf_iff fits).2 rfl
  by_cases valid : k.id.Valid
  · rw [if_pos valid]
    exact platformEntry_eq_ok_iff.2 ⟨k.key, k.value, k.further, parts, valid, rfl⟩
  · rw [if_neg valid]
    exact platformEntry_eq_error_iff.2 (.id parts (Oid.ofBytes?_eq_none_iff.2 valid))

theorem mapM_platformEntry {keyed : List KeyedEntry} (fits : ∀ k ∈ keyed, k.element.Fits) :
    (keyed.map KeyedEntry.element).mapM platformEntry =
      if ∀ k ∈ keyed, k.id.Valid then .ok (keyed.map KeyedEntry.entry)
      else .error (.asn1 "SGX extension entry oid") := by
  induction keyed with
  | nil => rfl
  | cons k keyed ih =>
    obtain ⟨first, others⟩ := List.forall_mem_cons.1 fits
    have all : (∀ k' ∈ k :: keyed, k'.id.Valid) ↔ k.id.Valid ∧ ∀ k' ∈ keyed, k'.id.Valid :=
      List.forall_mem_cons
    rw [List.map_cons, List.mapM_cons, platformEntry_element first, ih others]
    by_cases valid : k.id.Valid
    · by_cases rest : ∀ k' ∈ keyed, k'.id.Valid
      · rw [if_pos valid, if_pos rest, if_pos (all.2 ⟨valid, rest⟩)]
        rfl
      · rw [if_pos valid, if_neg rest, if_neg fun h => rest (all.1 h).2]
        rfl
    · rw [if_neg valid, if_neg fun h => valid (all.1 h).1]
      rfl

/-- What is made of an extension follows from the contents of its keys and values. -/
theorem platformEntries_of_keyedBy {raw : Bytes} {keyed : List KeyedEntry} (h : KeyedBy raw keyed) :
    platformEntries raw =
      if ∀ k ∈ keyed, k.id.Valid then .ok (keyed.map KeyedEntry.entry)
      else .error (.asn1 "SGX extension entry oid") := by
  obtain ⟨behind, fits, rfl⟩ := h
  have read : Element.read ((keyedExtension keyed).encode ++ behind) =
      some (keyedExtension keyed, behind) := Element.read_eq_some_iff.2 ⟨rfl, fits⟩
  have parts : sequenceElements (keyedExtension keyed) = some (keyed.map KeyedEntry.element) :=
    sequenceElements_eq_some_iff.2 ((sequenceOf_iff fits).2 rfl)
  rw [← mapM_platformEntry fun k mem => fits.of_mem (List.mem_map_of_mem mem), platformEntries, read]
  show (orAsn1 _ (sequenceElements (keyedExtension keyed)) >>= fun entries =>
    entries.mapM platformEntry) = _
  rw [parts]
  rfl

/-- Only extensions are read that consist of entries. -/
theorem exists_keyedBy {raw : Bytes} {entries : List PlatformEntry}
    (h : platformEntries raw = .ok entries) : ∃ keyed, KeyedBy raw keyed := by
  obtain ⟨parts, behind, fits, rfl, pairs⟩ := entriesOf_iff.1 (platformEntries_eq_ok_iff.1 h)
  have keyed : ∃ keyed : List KeyedEntry, keyed.map KeyedEntry.element = parts := by
    clear fits h
    induction pairs with
    | nil => exact ⟨[], rfl⟩
    | cons first _ ih =>
      obtain ⟨key, value, further, rfl, -⟩ := first
      obtain ⟨keyed, rfl⟩ := ih
      exact ⟨⟨key, value, further⟩ :: keyed, rfl⟩
  obtain ⟨keyed, rfl⟩ := keyed
  exact ⟨keyed, behind, fits, rfl⟩

/-! ## Other tags -/

theorem KeyedEntry.length_encode_retag (tag : UInt8) (k : KeyedEntry) :
    (k.retag tag).element.encode.length = k.element.encode.length := by
  have contents : (k.retag tag).element.contents.length = k.element.contents.length := by
    simp only [element, Element.sequence, retag, List.flatMap_cons, List.length_append,
      Element.length_encode]
  rw [Element.length_encode, Element.length_encode, contents]

theorem Retagged.fits {keyed keyed' : List KeyedEntry} (h : Retagged keyed keyed')
    (fits : (keyedExtension keyed).Fits) : (keyedExtension keyed').Fits := by
  have same : (keyedExtension keyed').contents.length = (keyedExtension keyed).contents.length := by
    clear fits
    induction h with
    | nil => rfl
    | cons first _ ih =>
      obtain ⟨tag, rfl⟩ := first
      simp only [keyedExtension, Element.sequence, List.map_cons, List.flatMap_cons,
        List.length_append, KeyedEntry.length_encode_retag] at ih ⊢
      rw [ih]
  rw [Element.Fits, same]
  exact fits

theorem Retagged.map_entry {keyed keyed' : List KeyedEntry} (h : Retagged keyed keyed') :
    keyed'.map KeyedEntry.entry = keyed.map KeyedEntry.entry := by
  induction h with
  | nil => rfl
  | cons first _ ih =>
    obtain ⟨tag, rfl⟩ := first
    rw [List.map_cons, List.map_cons, ih]
    rfl

theorem Retagged.valid_iff {keyed keyed' : List KeyedEntry} (h : Retagged keyed keyed') :
    (∀ k ∈ keyed', k.id.Valid) ↔ ∀ k ∈ keyed, k.id.Valid := by
  have by_entries (ks : List KeyedEntry) :
      (∀ k ∈ ks, k.id.Valid) ↔ ∀ e ∈ ks.map KeyedEntry.entry, e.id.Valid := by
    simp only [List.forall_mem_map, KeyedEntry.entry]
  rw [by_entries, by_entries, h.map_entry]

/-! ## The laws of keys -/

theorem KeyedEntry.filedUnder_entry_iff (k : KeyedEntry) :
    k.FiledUnder k.entry ↔ k.key.tag = oidTag := by
  constructor
  · exact congrArg Element.tag
  · intro tag
    rw [FiledUnder, ← tag]
    rfl

theorem fmspc_map_entry {keyed : List KeyedEntry} {text : String} :
    fmspc (keyed.map KeyedEntry.entry) = some text ↔
      ∃ k, FirstWith (·.key.contents = fmspcEntry.bytes) keyed k ∧
        Text.Hex.encode k.value.contents = text := by
  have same : ((fun e : PlatformEntry => decide (e.id = fmspcEntry)) ∘ KeyedEntry.entry) =
      fun k => decide (k.key.contents = fmspcEntry.bytes) :=
    funext fun k => decide_eq_decide.2 (Oid.mk.injEq ..).to_iff
  simp only [fmspc, List.find?_map, same, Option.map_map, Option.map_eq_some_iff,
    find?_eq_some_iff_firstWith]
  rfl

/-- What is read consists of entries, and each key stands for the identifier with its contents; one that
has the contents of none is an ASN.1 failure.  The entries are filed under the identifiers that were read
exactly if all keys are identifiers.  The FMSPC is the value of the first entry whose key has the contents
of its identifier.  The tags of the keys have no part in this: under any other tags the same is read. -/
theorem platformEntries_by_key_contents (raw : Bytes) :
    (∀ entries, platformEntries raw = .ok entries → ∃ keyed, KeyedBy raw keyed) ∧
    ∀ keyed, KeyedBy raw keyed →
      (∀ entries, platformEntries raw = .ok entries ↔
        (∀ k ∈ keyed, k.id.Valid) ∧ keyed.map KeyedEntry.entry = entries) ∧
      ((∃ k ∈ keyed, ¬ k.id.Valid) →
        platformEntries raw = .error (.asn1 "SGX extension entry oid")) ∧
      (∀ entries, platformEntries raw = .ok entries →
        (List.Forall₂ KeyedEntry.FiledUnder keyed entries ↔ ∀ k ∈ keyed, k.key.tag = oidTag)) ∧
      (∀ entries text, platformEntries raw = .ok entries →
        (fmspc entries = some text ↔
          ∃ k, FirstWith (·.key.contents = fmspcEntry.bytes) keyed k ∧
            Text.Hex.encode k.value.contents = text)) ∧
      ∀ keyed' behind, Retagged keyed keyed' →
        platformEntries ((keyedExtension keyed').encode ++ behind) = platformEntries raw := by
  refine ⟨fun entries => exists_keyedBy, fun keyed h => ?_⟩
  have reads (entries : List PlatformEntry) : platformEntries raw = .ok entries ↔
      (∀ k ∈ keyed, k.id.Valid) ∧ keyed.map KeyedEntry.entry = entries := by
    rw [platformEntries_of_keyedBy h, ite_ok_error_eq_ok_iff]
  refine ⟨reads, ?_, ?_, ?_, ?_⟩
  · rintro ⟨k, mem, invalid⟩
    rw [platformEntries_of_keyedBy h, if_neg fun all => invalid (all k mem)]
  · intro entries read
    obtain ⟨-, rfl⟩ := (reads entries).1 read
    rw [List.forall₂_map_right_iff, List.forall₂_same]
    exact forall₂_congr fun k _ => k.filedUnder_entry_iff
  · intro entries text read
    obtain ⟨-, rfl⟩ := (reads entries).1 read
    exact fmspc_map_entry
  · intro keyed' behind other
    have h' : KeyedBy ((keyedExtension keyed').encode ++ behind) keyed' :=
      ⟨behind, other.fits h.fits, rfl⟩
    rw [platformEntries_of_keyedBy h, platformEntries_of_keyedBy h', other.map_entry]
    simp only [other.valid_iff]

namespace Sample

/-- An FMSPC behind an octet string that has the contents of its identifier. -/
def octetsKey : KeyedEntry :=
  ⟨⟨0x04, fmspcEntry.bytes⟩, ⟨0x04, [0x00, 0x90, 0x6E, 0xD5, 0x00, 0x00]⟩, []⟩

/-- The extension with this entry alone. -/
def octetsKeyed : Bytes :=
  [0x30, 0x16, 0x30, 0x14, 0x04, 0x0A, 0x2A, 0x86, 0x48, 0x86, 0xF8, 0x4D, 0x01, 0x0D, 0x01, 0x04,
    0x04, 0x06, 0x00, 0x90, 0x6E, 0xD5, 0x00, 0x00]

theorem keyedBy_octetsKeyed : KeyedBy octetsKeyed [octetsKey] := by
  refine ⟨[], ?_, ?_⟩
  · unfold Element.Fits
    decide +kernel
  · decide +kernel

end Sample

theorem platformEntries_by_key_contents_sample :
    KeyedBy Sample.octetsKeyed [Sample.octetsKey] ∧
      Retagged [Sample.octetsKey] [Sample.octetsKey.retag oidTag] ∧
      platformEntries Sample.octetsKeyed = .ok [Sample.octetsKey.entry] ∧
      platformEntries (keyedExtension [Sample.octetsKey.retag oidTag]).encode =
        .ok [Sample.octetsKey.entry] := by
  have keyed := Sample.keyedBy_octetsKeyed
  have other : Retagged [Sample.octetsKey] [Sample.octetsKey.retag oidTag] := .cons ⟨_, rfl⟩ .nil
  have valid : ∀ k ∈ [Sample.octetsKey], k.id.Valid := by decide +kernel
  obtain ⟨reads, -, -, -, tags⟩ := (platformEntries_by_key_contents _).2 _ keyed
  have read := (reads [Sample.octetsKey.entry]).2 ⟨valid, rfl⟩
  have same := tags _ [] other
  rw [List.append_nil, read] at same
  exact ⟨keyed, other, read, same⟩

/-- The key is an octet string, so the extension has no entry that is filed under an identifier, and yet
an FMSPC is read from it. -/
theorem octets_pass_for_identifier :
    KeyedBy Sample.octetsKeyed [Sample.octetsKey] ∧ Sample.octetsKey.key.tag ≠ oidTag ∧
      platformEntries Sample.octetsKeyed = .ok [Sample.octetsKey.entry] ∧
      fmspc [Sample.octetsKey.entry] = some "00906ed50000" ∧
      (¬ ∀ raw keyed entries, KeyedBy raw keyed → platformEntries raw = .ok entries →
        List.Forall₂ KeyedEntry.FiledUnder keyed entries) ∧
      ¬ ∀ raw keyed, KeyedBy raw keyed → (∃ k ∈ keyed, k.key.tag ≠ oidTag) →
        ∃ place, platformEntries raw = .error (.asn1 place) := by
  have keyed := Sample.keyedBy_octetsKeyed
  have tag : Sample.octetsKey.key.tag ≠ oidTag := by decide +kernel
  have read : platformEntries Sample.octetsKeyed = .ok [Sample.octetsKey.entry] := by decide +kernel
  refine ⟨keyed, tag, read, by decide +kernel, fun claimed => ?_, fun claimed => ?_⟩
  · obtain _ | ⟨filed, -⟩ := claimed _ _ _ keyed read
    exact tag (congrArg Element.tag filed)
  · obtain ⟨place, failed⟩ := claimed _ _ keyed ⟨_, List.mem_singleton_self _, tag⟩
    cases read.symm.trans failed

end Quote

end QuoteProver
