import QuoteProver.Proofs.Except
import QuoteProver.Proofs.Text.Utf8
import QuoteProver.Quote.Chain

/-!
# What a certificate chain says

The checks of a chain, of the issuer of a certificate and of its platform extension, told without the
order of their steps: for each there is what it gives (`ChainOf`, `IssuedBy`, `EntriesOf`) and which
fault it finds first (`ChainFault`, `IssuerFault`, `EntriesFault`).  The readers give and find just
these.
-/

namespace QuoteProver.Quote

open Der Collateral

/-! ## Chains -/

/-- The blocks of a byte string, all of which are well formed. -/
def BlocksOf (data : Bytes) (blocks : List Text.Pem.Block) : Prop :=
  List.Forall₂ (fun capture block => capture.block = .ok block) (Text.Pem.captures data) blocks

def Holds (block : Text.Pem.Block) (c : Certificate) : Prop :=
  block.label = "CERTIFICATE" ∧ Certificate.ofDer block.contents = some c

/-- The certificates of a byte string: each of its blocks is well formed and holds one. -/
def ChainOf (data : Bytes) (chain : List Certificate) : Prop :=
  ∃ blocks, BlocksOf data blocks ∧ List.Forall₂ Holds blocks chain

/-- What is wrong with a block; its label is looked at first. -/
inductive BlockFault (block : Text.Pem.Block) : Failure → Prop
  | label : block.label ≠ "CERTIFICATE" → BlockFault block (.blockLabel block.label)
  | certificate : block.label = "CERTIFICATE" → Certificate.ofDer block.contents = none →
      BlockFault block .certificate

/-- What is wrong with a chain: a malformed block wherever it stands, else the first block that does
not hold a certificate. -/
inductive ChainFault (data : Bytes) : Failure → Prop
  | pem {capture : Text.Pem.Capture} {fault : Text.Pem.Fault} :
      FirstWith (fun capture => ∃ fault, capture.block = .error fault) (Text.Pem.captures data)
        capture →
      capture.block = .error fault → ChainFault data (.pem fault)
  | block {blocks : List Text.Pem.Block} {block : Text.Pem.Block} {failure : Failure} :
      BlocksOf data blocks → FirstWith (fun block => ∃ failure, BlockFault block failure) blocks block →
      BlockFault block failure → ChainFault data failure

theorem certificateOf_eq_ok_iff {block : Text.Pem.Block} {c : Certificate} :
    certificateOf block = .ok c ↔ Holds block c := by
  unfold certificateOf Holds
  by_cases label : block.label = "CERTIFICATE"
  · rw [if_neg (not_not_intro label)]
    cases Certificate.ofDer block.contents <;> simp [label]
  · simp [label]

theorem certificateOf_eq_error_iff {block : Text.Pem.Block} {failure : Failure} :
    certificateOf block = .error failure ↔ BlockFault block failure := by
  unfold certificateOf
  constructor
  · intro h
    by_cases label : block.label = "CERTIFICATE"
    · rw [if_neg (not_not_intro label)] at h
      cases parsed : Certificate.ofDer block.contents with
      | none => rw [parsed] at h; cases h; exact .certificate label parsed
      | some c => rw [parsed] at h; cases h
    · rw [if_pos label] at h
      cases h
      exact .label label
  · rintro (label | ⟨label, none⟩)
    · rw [if_pos label]
    · rw [if_neg (not_not_intro label), none]

theorem parseMany_eq_ok_iff {data : Bytes} {blocks : List Text.Pem.Block} :
    (Text.Pem.parseMany data).mapError Failure.pem = .ok blocks ↔ BlocksOf data blocks := by
  rw [mapError_eq_ok_iff, Text.Pem.parseMany, mapM_eq_ok_iff, BlocksOf]

theorem chain_eq_ok_iff {data : Bytes} {certificates : List Certificate} :
    chain data = .ok certificates ↔ ChainOf data certificates := by
  simp only [chain, bind_eq_ok_iff, parseMany_eq_ok_iff, mapM_eq_ok_iff, certificateOf_eq_ok_iff,
    ChainOf]

theorem chain_eq_error_iff {data : Bytes} {failure : Failure} :
    chain data = .error failure ↔ ChainFault data failure := by
  simp only [chain, bind_eq_error_iff, mapError_eq_error_iff, parseMany_eq_ok_iff, mapM_eq_error_iff,
    certificateOf_eq_error_iff]
  rw [Text.Pem.parseMany]
  simp only [mapM_eq_error_iff]
  constructor
  · rintro (⟨fault, ⟨capture, first, hfault⟩, rfl⟩ | ⟨blocks, read, block, first, hfault⟩)
    · exact .pem first hfault
    · exact .block read first hfault
  · rintro (⟨first, hfault⟩ | ⟨read, first, hfault⟩)
    · exact .inl ⟨_, ⟨_, first, hfault⟩, rfl⟩
    · exact .inr ⟨_, read, _, first, hfault⟩

/-! ## Issuers -/

/-- The issuer of a certificate has the given name: the first common name among all attributes of its
parts, in the order in which the certificate holds them. -/
def IssuerNamed (c : Certificate) (name : String) : Prop :=
  ∃ attr, FirstWith (·.type = commonName) c.issuer.flatten attr ∧
    attr.value.contents = Text.Utf8.encode name

inductive IssuedBy (c : Certificate) : Authority → Prop
  | platform : IssuerNamed c "Intel SGX PCK Platform CA" → IssuedBy c .platform
  | processor : IssuerNamed c "Intel SGX PCK Processor CA" → IssuedBy c .processor

inductive IssuerFault (c : Certificate) : Failure → Prop
  | unknown {name : String} : IssuerNamed c name → name ≠ "Intel SGX PCK Platform CA" →
      name ≠ "Intel SGX PCK Processor CA" → IssuerFault c (.unknownIssuer name)
  | nameless : (∀ name, ¬ IssuerNamed c name) → IssuerFault c (.unknownIssuer "")

theorem issuerName_eq_some_iff {c : Certificate} {name : String} :
    issuerName c = some name ↔ IssuerNamed c name := by
  simp only [issuerName, Certificate.firstAttribute, Option.bind_eq_bind, Option.bind_eq_some_iff,
    find?_eq_some_iff_firstWith, Text.Utf8.decode?_eq_some_iff, IssuerNamed]

theorem issuerName_eq_none_iff {c : Certificate} :
    issuerName c = none ↔ ∀ name, ¬ IssuerNamed c name := by
  simp only [Option.eq_none_iff_forall_ne_some, ne_eq, issuerName_eq_some_iff]

theorem authority_eq_ok_iff {c : Certificate} {a : Authority} :
    authority c = .ok a ↔ IssuedBy c a := by
  unfold authority
  constructor
  · intro h
    split at h
    · rename_i name
      cases h
      exact .platform (issuerName_eq_some_iff.1 name)
    · rename_i name
      cases h
      exact .processor (issuerName_eq_some_iff.1 name)
    · cases h
    · cases h
  · rintro (name | name)
    · rw [issuerName_eq_some_iff.2 name]
      rfl
    · rw [issuerName_eq_some_iff.2 name]
      rfl

theorem authority_eq_error_iff {c : Certificate} {failure : Failure} :
    authority c = .error failure ↔ IssuerFault c failure := by
  unfold authority
  constructor
  · intro h
    split at h
    · cases h
    · cases h
    · rename_i other notPlatform notProcessor name
      cases h
      refine .unknown (issuerName_eq_some_iff.1 name) ?_ ?_
      · rintro rfl; exact notPlatform rfl
      · rintro rfl; exact notProcessor rfl
    · rename_i none
      cases h
      exact .nameless (issuerName_eq_none_iff.1 none)
  · rintro (⟨name, notPlatform, notProcessor⟩ | none)
    · rw [issuerName_eq_some_iff.2 name]
      split
      · rename_i same; exact absurd (Option.some.inj same) notPlatform
      · rename_i same; exact absurd (Option.some.inj same) notProcessor
      · rename_i same; rw [Option.some.inj same]
      · rename_i same; cases same
    · rw [issuerName_eq_none_iff.2 none]

/-! ## The platform extension -/

def SequenceOf (e : Element) (parts : List Element) : Prop :=
  e.tag = sequenceTag ∧ elements e.contents = some parts

/-- A sequence that starts with an identifier and a value. -/
def EntryOf (e : Element) (entry : PlatformEntry) : Prop :=
  ∃ id value rest, SequenceOf e (id :: value :: rest) ∧ Oid.ofBytes? id.contents = some entry.id ∧
    value.contents = entry.value

/-- The entries of the sequence at the front of a byte string. -/
def EntriesOf (raw : Bytes) (entries : List PlatformEntry) : Prop :=
  ∃ outer rest parts, Element.read raw = some (outer, rest) ∧ SequenceOf outer parts ∧
    List.Forall₂ EntryOf parts entries

inductive EntryFault (e : Element) : Failure → Prop
  | sequence : (∀ parts, ¬ SequenceOf e parts) → EntryFault e (.asn1 "SGX extension entry")
  | noId : SequenceOf e [] → EntryFault e (.asn1 "SGX extension entry oid")
  | noValue {id : Element} : SequenceOf e [id] → EntryFault e (.asn1 "SGX extension entry value")
  | id {id value : Element} {rest : List Element} : SequenceOf e (id :: value :: rest) →
      Oid.ofBytes? id.contents = none → EntryFault e (.asn1 "SGX extension entry oid")

/-- The first place at which the extension is broken. -/
inductive EntriesFault (raw : Bytes) : Failure → Prop
  | element : Element.read raw = none → EntriesFault raw (.asn1 "SGX extension")
  | sequence {outer : Element} {rest : Bytes} : Element.read raw = some (outer, rest) →
      (∀ parts, ¬ SequenceOf outer parts) → EntriesFault raw (.asn1 "SGX extension sequence")
  | entry {outer e : Element} {rest : Bytes} {parts : List Element} {failure : Failure} :
      Element.read raw = some (outer, rest) → SequenceOf outer parts →
      FirstWith (fun e => ∃ failure, EntryFault e failure) parts e → EntryFault e failure →
      EntriesFault raw failure

theorem orAsn1_eq_ok_iff {α : Type} {place : String} {x : Option α} {a : α} :
    orAsn1 place x = .ok a ↔ x = some a := by
  cases x <;> simp [orAsn1]

theorem orAsn1_eq_error_iff {α : Type} {place : String} {x : Option α} {failure : Failure} :
    orAsn1 place x = .error failure ↔ x = none ∧ .asn1 place = failure := by
  cases x <;> simp [orAsn1]

theorem sequenceElements_eq_some_iff {e : Element} {parts : List Element} :
    sequenceElements e = some parts ↔ SequenceOf e parts := by
  simp [sequenceElements, SequenceOf]

theorem sequenceElements_eq_none_iff {e : Element} :
    sequenceElements e = none ↔ ∀ parts, ¬ SequenceOf e parts := by
  simp only [Option.eq_none_iff_forall_ne_some, ne_eq, sequenceElements_eq_some_iff]

theorem platformEntry_eq_ok_iff {e : Element} {entry : PlatformEntry} :
    platformEntry e = .ok entry ↔ EntryOf e entry := by
  simp only [platformEntry, bind_eq_ok_iff, orAsn1_eq_ok_iff, sequenceElements_eq_some_iff, EntryOf]
  constructor
  · rintro ⟨parts, hparts, id, hid, value, hvalue, oid, hoid, h⟩
    cases h
    match parts, hid, hvalue with
    | id :: value :: rest, rfl, rfl => exact ⟨id, value, rest, hparts, hoid, rfl⟩
  · rintro ⟨id, value, rest, hparts, hoid, hvalue⟩
    refine ⟨_, hparts, id, rfl, value, rfl, entry.id, hoid, ?_⟩
    rw [hvalue]
    rfl

theorem platformEntry_eq_error_iff {e : Element} {failure : Failure} :
    platformEntry e = .error failure ↔ EntryFault e failure := by
  simp only [platformEntry, bind_eq_error_iff, orAsn1_eq_ok_iff, orAsn1_eq_error_iff,
    sequenceElements_eq_some_iff, sequenceElements_eq_none_iff]
  constructor
  · rintro (⟨none, rfl⟩ | ⟨parts, hparts, fails⟩)
    · exact .sequence none
    -- How many parts there are decides how far the reading gets.
    · rcases parts with _ | ⟨id, _ | ⟨value, rest⟩⟩
      · rcases fails with ⟨-, rfl⟩ | ⟨id, hid, -⟩
        · exact .noId hparts
        · cases hid
      · rcases fails with ⟨hid, -⟩ | ⟨id, -, ⟨-, rfl⟩ | ⟨value, hvalue, -⟩⟩
        · cases hid
        · exact .noValue hparts
        · cases hvalue
      · rcases fails with ⟨hid, -⟩ | ⟨id, hid, ⟨hvalue, -⟩ | ⟨value, -, ⟨none, rfl⟩ | ⟨oid, -, h⟩⟩⟩
        · cases hid
        · cases hvalue
        · cases hid
          exact .id hparts none
        · cases h
  · rintro (none | hparts | hparts | ⟨hparts, none⟩)
    · exact .inl ⟨none, rfl⟩
    · exact .inr ⟨_, hparts, .inl ⟨rfl, rfl⟩⟩
    · exact .inr ⟨_, hparts, .inr ⟨_, rfl, .inl ⟨rfl, rfl⟩⟩⟩
    · exact .inr ⟨_, hparts, .inr ⟨_, rfl, .inr ⟨_, rfl, .inl ⟨none, rfl⟩⟩⟩⟩

theorem platformEntries_eq_ok_iff {raw : Bytes} {entries : List PlatformEntry} :
    platformEntries raw = .ok entries ↔ EntriesOf raw entries := by
  simp only [platformEntries, bind_eq_ok_iff, orAsn1_eq_ok_iff, sequenceElements_eq_some_iff,
    mapM_eq_ok_iff, platformEntry_eq_ok_iff, EntriesOf, Prod.exists]
  constructor
  · rintro ⟨outer, rest, read, parts, hparts, hentries⟩
    exact ⟨outer, rest, parts, read, hparts, hentries⟩
  · rintro ⟨outer, rest, parts, read, hparts, hentries⟩
    exact ⟨outer, rest, read, parts, hparts, hentries⟩

theorem platformEntries_eq_error_iff {raw : Bytes} {failure : Failure} :
    platformEntries raw = .error failure ↔ EntriesFault raw failure := by
  simp only [platformEntries, bind_eq_error_iff, orAsn1_eq_ok_iff, orAsn1_eq_error_iff,
    sequenceElements_eq_some_iff, sequenceElements_eq_none_iff, mapM_eq_error_iff,
    platformEntry_eq_error_iff, Prod.exists]
  constructor
  · rintro (⟨none, rfl⟩ | ⟨outer, rest, read, ⟨none, rfl⟩ | ⟨parts, hparts, e, first, fault⟩⟩)
    · exact .element none
    · exact .sequence read none
    · exact .entry read hparts first fault
  · rintro (none | ⟨read, none⟩ | ⟨read, hparts, first, fault⟩)
    · exact .inl ⟨none, rfl⟩
    · exact .inr ⟨_, _, read, .inl ⟨none, rfl⟩⟩
    · exact .inr ⟨_, _, read, .inr ⟨_, hparts, _, first, fault⟩⟩

end QuoteProver.Quote
