import QuoteProver.Proofs.Quote.Chain
import QuoteProver.Quote.Basic

/-!
# What collateral a quote is filed under

The first certificate behind a quote identifies its platform: its issuer is the authority, and the
first FMSPC of its first platform extension is the platform's.  `collateralKeys_by_chain` says that
an accepted quote has keys exactly if its chain identifies a platform, that it fails otherwise with
the first fault in the order of `KeysFault`, and that nothing but the layout and the certification
data of a quote has a part in this.
-/

namespace QuoteProver.Quote

open Der Collateral

/-- The first certificate of a chain identifies a platform. -/
def Identifies (data : Bytes) (authority : Authority) (fmspc : Bytes) : Prop :=
  ∃ c rest extension entries entry, ChainOf data (c :: rest) ∧ IssuedBy c authority ∧
    FirstWith (·.id = platformExtension) c.extensions extension ∧
    EntriesOf extension.value entries ∧
    FirstWith (·.id = fmspcEntry) entries entry ∧ entry.value = fmspc

/-- Why the certificates behind a quote do not identify a platform: the first check that fails. -/
inductive KeysFault (data : Bytes) : Failure → Prop
  | chain {failure : Failure} : ChainFault data failure → KeysFault data failure
  | empty : ChainOf data [] → KeysFault data .emptyChain
  | issuer {c : Certificate} {rest : List Certificate} {failure : Failure} :
      ChainOf data (c :: rest) → IssuerFault c failure → KeysFault data failure
  | entries {c : Certificate} {rest : List Certificate} {authority : Authority}
      {extension : Extension} {failure : Failure} :
      ChainOf data (c :: rest) → IssuedBy c authority →
      FirstWith (·.id = platformExtension) c.extensions extension →
      EntriesFault extension.value failure → KeysFault data failure
  | noExtension {c : Certificate} {rest : List Certificate} {authority : Authority} :
      ChainOf data (c :: rest) → IssuedBy c authority →
      (∀ extension ∈ c.extensions, extension.id ≠ platformExtension) →
      KeysFault data .missingFmspc
  | noFmspc {c : Certificate} {rest : List Certificate} {authority : Authority}
      {extension : Extension} {entries : List PlatformEntry} :
      ChainOf data (c :: rest) → IssuedBy c authority →
      FirstWith (·.id = platformExtension) c.extensions extension →
      EntriesOf extension.value entries → (∀ entry ∈ entries, entry.id ≠ fmspcEntry) →
      KeysFault data .missingFmspc

/-- The keys of a platform whose quotes have the given layout. -/
def Layout.keys (layout : Layout) (authority : Authority) (fmspc : Bytes) : Keys :=
  { fmspc := Text.Hex.encode fmspc, authority,
    tcbKind := layout.tcbKind, tcbVersion := layout.tcbVersion,
    enclaveKind := layout.enclaveKind, enclaveVersion := layout.version }

/-- The same platform in a quote of the given layout. -/
def Layout.relabel (layout : Layout) (keys : Keys) : Keys :=
  { keys with
    tcbKind := layout.tcbKind, tcbVersion := layout.tcbVersion,
    enclaveKind := layout.enclaveKind, enclaveVersion := layout.version }

/-! ## Accepted quotes -/

theorem parse_eq_ok {data : Bytes} {q : Quote} (h : Quote.parse data = .ok q) :
    Layout.detect data = .ok q.layout ∧ q.data = data ∧
      q.chainOffset = q.layout.authDataSizeOffset + 2 +
        Layout.numberAt data q.layout.authDataSizeOffset 2 + 6 := by
  obtain ⟨layout, detected, h⟩ := bind_eq_ok_iff.1 h
  dsimp only at h
  split at h
  · cases h
  · split at h
    · cases h
    · cases h
      exact ⟨detected, rfl, rfl⟩

/-! ## The platform's certificate -/

theorem platformCertificate_eq_ok_iff {q : Quote} {c : Certificate} :
    q.platformCertificate = .ok c ↔ ∃ rest, ChainOf q.chainData (c :: rest) := by
  rw [platformCertificate, bind_eq_ok_iff]
  simp only [certificates, chain_eq_ok_iff]
  constructor
  · rintro ⟨_ | ⟨first, rest⟩, read, h⟩
    · cases h
    · cases h
      exact ⟨rest, read⟩
  · rintro ⟨rest, read⟩
    exact ⟨_, read, rfl⟩

theorem platformCertificate_eq_error_iff {q : Quote} {failure : Failure} :
    q.platformCertificate = .error failure ↔
      ChainFault q.chainData failure ∨ ChainOf q.chainData [] ∧ .emptyChain = failure := by
  rw [platformCertificate, bind_eq_error_iff]
  simp only [certificates, chain_eq_ok_iff, chain_eq_error_iff]
  constructor
  · rintro (fault | ⟨_ | ⟨first, rest⟩, read, h⟩)
    · exact .inl fault
    · cases h
      exact .inr ⟨read, rfl⟩
    · cases h
  · rintro (fault | ⟨read, rfl⟩)
    · exact .inl fault
    · exact .inr ⟨_, read, rfl⟩

/-! ## The FMSPC of a certificate -/

theorem extensionValue_eq_some_iff {c : Certificate} {raw : Bytes} :
    c.extensionValue platformExtension = some raw ↔
      ∃ extension, FirstWith (·.id = platformExtension) c.extensions extension ∧
        extension.value = raw := by
  simp only [Certificate.extensionValue, Option.map_eq_some_iff, find?_eq_some_iff_firstWith]

theorem extensionValue_eq_none_iff {c : Certificate} :
    c.extensionValue platformExtension = none ↔
      ∀ extension ∈ c.extensions, extension.id ≠ platformExtension := by
  simp [Certificate.extensionValue]

theorem fmspc_eq_some_iff {entries : List PlatformEntry} {text : String} :
    fmspc entries = some text ↔
      ∃ entry, FirstWith (·.id = fmspcEntry) entries entry ∧ Text.Hex.encode entry.value = text := by
  simp only [fmspc, Option.map_eq_some_iff, find?_eq_some_iff_firstWith]

theorem fmspc_eq_none_iff {entries : List PlatformEntry} :
    fmspc entries = none ↔ ∀ entry ∈ entries, entry.id ≠ fmspcEntry := by
  simp [fmspc]

theorem certificateEntries_eq_ok_iff {c : Certificate} {entries? : Option (List PlatformEntry)} :
    certificateEntries c = .ok entries? ↔
      (entries? = none ∧ ∀ extension ∈ c.extensions, extension.id ≠ platformExtension) ∨
      ∃ extension entries, FirstWith (·.id = platformExtension) c.extensions extension ∧
        EntriesOf extension.value entries ∧ entries? = some entries := by
  unfold certificateEntries
  constructor
  · intro h
    split at h
    · rename_i absent
      cases h
      exact .inl ⟨rfl, extensionValue_eq_none_iff.1 absent⟩
    · rename_i raw present
      obtain ⟨extension, first, rfl⟩ := extensionValue_eq_some_iff.1 present
      cases read : platformEntries extension.value with
      | error failure => rw [read] at h; cases h
      | ok entries =>
        rw [read] at h
        cases h
        exact .inr ⟨extension, entries, first, platformEntries_eq_ok_iff.1 read, rfl⟩
  · rintro (⟨rfl, absent⟩ | ⟨extension, entries, first, read, rfl⟩)
    · rw [extensionValue_eq_none_iff.2 absent]
    · rw [extensionValue_eq_some_iff.2 ⟨extension, first, rfl⟩]
      simp only [platformEntries_eq_ok_iff.2 read]
      rfl

theorem certificateEntries_eq_error_iff {c : Certificate} {failure : Failure} :
    certificateEntries c = .error failure ↔
      ∃ extension, FirstWith (·.id = platformExtension) c.extensions extension ∧
        EntriesFault extension.value failure := by
  unfold certificateEntries
  constructor
  · intro h
    split at h
    · cases h
    · rename_i raw present
      obtain ⟨extension, first, rfl⟩ := extensionValue_eq_some_iff.1 present
      cases read : platformEntries extension.value with
      | error failure' =>
        rw [read] at h
        cases h
        exact ⟨extension, first, platformEntries_eq_error_iff.1 read⟩
      | ok entries => rw [read] at h; cases h
  · rintro ⟨extension, first, fault⟩
    rw [extensionValue_eq_some_iff.2 ⟨extension, first, rfl⟩]
    simp only [platformEntries_eq_error_iff.2 fault]
    rfl

/-! ## The keys -/

theorem collateralKeys_eq_ok_iff {q : Quote} {keys : Keys} :
    q.collateralKeys = .ok keys ↔
      ∃ authority fmspc, Identifies q.chainData authority fmspc ∧
        keys = q.layout.keys authority fmspc := by
  simp only [collateralKeys, bind_eq_ok_iff, platformCertificate_eq_ok_iff, authority_eq_ok_iff,
    certificateEntries_eq_ok_iff]
  constructor
  · rintro ⟨c, ⟨rest, read⟩, authority, issued, entries?, found, h⟩
    split at h
    · cases h
    · rename_i text htext
      obtain ⟨entries, rfl, hfmspc⟩ := Option.bind_eq_some_iff.1 htext
      obtain ⟨entry, firstEntry, rfl⟩ := fmspc_eq_some_iff.1 hfmspc
      rcases found with ⟨absent, -⟩ | ⟨extension, entries', first, hentries, same⟩
      · cases absent
      · cases same
        cases h
        exact ⟨authority, entry.value,
          ⟨c, rest, extension, entries, entry, read, issued, first, hentries, firstEntry, rfl⟩, rfl⟩
  · rintro ⟨authority, _,
      ⟨c, rest, extension, entries, entry, read, issued, first, hentries, firstEntry, rfl⟩, rfl⟩
    refine ⟨c, ⟨rest, read⟩, authority, issued, some entries,
      .inr ⟨extension, entries, first, hentries, rfl⟩, ?_⟩
    have hfmspc : fmspc entries = some (Text.Hex.encode entry.value) :=
      fmspc_eq_some_iff.2 ⟨entry, firstEntry, rfl⟩
    simp only [Option.bind_some, hfmspc]
    rfl

theorem collateralKeys_eq_error_iff {q : Quote} {failure : Failure} :
    q.collateralKeys = .error failure ↔ KeysFault q.chainData failure := by
  simp only [collateralKeys, bind_eq_error_iff, platformCertificate_eq_ok_iff,
    platformCertificate_eq_error_iff, authority_eq_ok_iff, authority_eq_error_iff,
    certificateEntries_eq_ok_iff, certificateEntries_eq_error_iff]
  constructor
  · rintro ((fault | ⟨read, rfl⟩) | ⟨c, ⟨rest, read⟩, fault | ⟨authority, issued, later⟩⟩)
    · exact .chain fault
    · exact .empty read
    · exact .issuer read fault
    · rcases later with ⟨extension, first, fault⟩ | ⟨entries?, found, h⟩
      · exact .entries read issued first fault
      · split at h
        · rename_i missing
          cases h
          rcases found with ⟨rfl, absent⟩ | ⟨extension, entries, first, hentries, rfl⟩
          · exact .noExtension read issued absent
          · exact .noFmspc read issued first hentries (fmspc_eq_none_iff.1 missing)
        · cases h
  · rintro (fault | read | ⟨read, fault⟩ | ⟨read, issued, first, fault⟩ | ⟨read, issued, absent⟩ |
      ⟨read, issued, first, hentries, absent⟩)
    · exact .inl (.inl fault)
    · exact .inl (.inr ⟨read, rfl⟩)
    · exact .inr ⟨_, ⟨_, read⟩, .inl fault⟩
    · exact .inr ⟨_, ⟨_, read⟩, .inr ⟨_, issued, .inl ⟨_, first, fault⟩⟩⟩
    · exact .inr ⟨_, ⟨_, read⟩, .inr ⟨_, issued, .inr ⟨none, .inl ⟨rfl, absent⟩, rfl⟩⟩⟩
    · refine .inr ⟨_, ⟨_, read⟩, .inr ⟨_, issued, .inr ⟨some _, .inr ⟨_, _, first, hentries, rfl⟩, ?_⟩⟩⟩
      simp only [Option.bind_some, fmspc_eq_none_iff.2 absent]
      rfl

theorem IssuedBy.authority {c : Certificate} {a : Authority} (h : IssuedBy c a) :
    a = .platform ∨ a = .processor := by
  cases h with
  | platform => exact .inl rfl
  | processor => exact .inr rfl

section SameChain

variable {q q' : Quote} (same : q'.chainData = q.chainData)

include same

theorem collateralKeys_of_same_chain :
    q'.collateralKeys = q.collateralKeys.map q'.layout.relabel := by
  cases result : q.collateralKeys with
  | ok keys =>
    obtain ⟨authority, fmspc, identifies, rfl⟩ := collateralKeys_eq_ok_iff.1 result
    rw [← same] at identifies
    exact collateralKeys_eq_ok_iff.2 ⟨authority, fmspc, identifies, rfl⟩
  | error failure =>
    have fault := collateralKeys_eq_error_iff.1 result
    rw [← same] at fault
    exact collateralKeys_eq_error_iff.2 fault

theorem collateralKeys_of_same_layout (sameLayout : q'.layout = q.layout) :
    q'.collateralKeys = q.collateralKeys := by
  rw [collateralKeys_of_same_chain same, sameLayout]
  cases result : q.collateralKeys with
  | ok keys =>
    obtain ⟨authority, fmspc, -, rfl⟩ := collateralKeys_eq_ok_iff.1 result
    rfl
  | error failure => rfl

end SameChain

/-- An accepted quote has keys if its chain identifies a platform, and fails with the first fault of
the chain otherwise.  Quotes with the same certification data fail alike or are filed under the same
keys, up to what their layouts ask for. -/
theorem collateralKeys_by_chain {data : Bytes} {q : Quote} (h : Quote.parse data = .ok q) :
    Layout.detect data = .ok q.layout ∧
    q.chainData = data.drop (q.layout.authDataSizeOffset + 2 +
      Layout.numberAt data q.layout.authDataSizeOffset 2 + 6) ∧
    (∀ keys, q.collateralKeys = .ok keys ↔
      ∃ authority fmspc, Identifies q.chainData authority fmspc ∧
        keys = q.layout.keys authority fmspc) ∧
    (∀ keys, q.collateralKeys = .ok keys →
      keys.authority = .platform ∨ keys.authority = .processor) ∧
    (∀ failure, q.collateralKeys = .error failure ↔ KeysFault q.chainData failure) ∧
    (∀ data' q', Quote.parse data' = .ok q' → q'.chainData = q.chainData →
      q'.collateralKeys = q.collateralKeys.map q'.layout.relabel ∧
        (q'.layout = q.layout → q'.collateralKeys = q.collateralKeys)) := by
  obtain ⟨detected, hdata, hoffset⟩ := parse_eq_ok h
  refine ⟨detected, ?_, fun keys => collateralKeys_eq_ok_iff, ?_,
    fun failure => collateralKeys_eq_error_iff, ?_⟩
  · rw [chainData, hdata, hoffset]
  · intro keys hkeys
    obtain ⟨authority, fmspc, ⟨c, _, _, _, _, _, issued, _⟩, rfl⟩ := collateralKeys_eq_ok_iff.1 hkeys
    exact issued.authority
  · intro data' q' _ same
    exact ⟨collateralKeys_of_same_chain same, collateralKeys_of_same_layout same⟩

/-! ## A small quote -/

namespace Sample

/-- An element with the given tag around the given parts. -/
def nest (tag : UInt8) (parts : List Bytes) : Bytes := Element.encode ⟨tag, parts.flatten⟩

def algorithm : Bytes := nest sequenceTag [nest 0x06 [commonName.bytes]]

/-- A name whose parts are common names. -/
def name (texts : List String) : Bytes :=
  nest sequenceTag (texts.map fun text =>
    nest 0x31 [nest sequenceTag [nest 0x06 [commonName.bytes], nest 0x0C [Text.Utf8.encode text]]])

/-- The platform extension with the given FMSPC entries. -/
def extension (values : List Bytes) : Bytes :=
  nest sequenceTag [nest 0x06 [platformExtension.bytes], nest 0x04 [nest sequenceTag
    (values.map fun value => nest sequenceTag [nest 0x06 [fmspcEntry.bytes], nest 0x04 [value]])]]

def time : Bytes := nest 0x17 [Bytes.ofAscii "250101000000Z"]

/-- A certificate with little else than its issuer and its extensions. -/
def certificate (issuer : Bytes) (extensions : List Bytes) : Bytes :=
  nest sequenceTag [
    nest sequenceTag [nest 0x02 [[1]], algorithm, issuer, nest sequenceTag [time, time], name [],
      nest sequenceTag [algorithm, nest 0x03 [[0]]], nest 0xA3 [nest sequenceTag extensions]],
    algorithm, nest 0x03 [[0]]]

def block (contents : Bytes) : Bytes :=
  Bytes.ofAscii "-----BEGIN CERTIFICATE-----" ++
    (Text.Base64.encodeChars contents).map (fun c => UInt8.ofNat c.toNat) ++
    Bytes.ofAscii "-----END CERTIFICATE-----"

/-- A quote whose certificate names both authorities and has two FMSPCs. -/
def quote : Quote where
  layout := .v3
  data := 3 :: List.replicate 1019 0 ++
    block (certificate (name ["Intel SGX PCK Platform CA", "Intel SGX PCK Processor CA"])
      [extension [[0x00, 0x90, 0x6E], [0x01]]]) ++ [0]
  chainOffset := 1020

/-- The first name and the first FMSPC decide. -/
def keys : Keys := Layout.v3.keys .platform [0x00, 0x90, 0x6E]

end Sample

theorem collateralKeys_by_chain_sample :
    Quote.parse Sample.quote.data = .ok Sample.quote ∧
      Sample.quote.collateralKeys = .ok Sample.keys ∧
      ∃ authority fmspc, Identifies Sample.quote.chainData authority fmspc ∧
        Sample.keys = Sample.quote.layout.keys authority fmspc := by
  have parsed : Quote.parse Sample.quote.data = .ok Sample.quote := by decide +kernel
  have filed : Sample.quote.collateralKeys = .ok Sample.keys := by decide +kernel
  obtain ⟨-, -, told, -⟩ := collateralKeys_by_chain parsed
  exact ⟨parsed, filed, (told Sample.keys).1 filed⟩

end QuoteProver.Quote
