import QuoteProver.Collateral.Record
import QuoteProver.Proofs.Json.Members
import QuoteProver.Proofs.Json.Writing

/-!
# Spelling of signed records

A signature covers the spelling of what is signed, so a record must not lose it.
`encode_keeps_spelling` says that it does not: what is written for a record that has been read has
the very bytes that stood in the text read, and reading it gives the record again.
-/

namespace QuoteProver.Collateral

open Json Text

namespace SignedRecord

/-- The record that a text holds. -/
def ofText (subject : Subject) (text : String) : Option SignedRecord :=
  (Node.ofString text).bind (ofNode subject)

/-! ## Reading -/

/-- The members of an object make up a record: there is one with the contents, whatever value it has,
and one with the signature, and nothing is asked of the others but that their names are texts. -/
structure Whole (members : Members) (subject : Subject) : Prop where
  named : ∀ m ∈ members, m.1 ≠ none
  contents : ∃ entry, Sole members subject.member entry
  signature : ∃ spelling hex bytes, Sole members "signature" (spelling, .string (some hex)) ∧
    Hex.Denotes hex.toList bytes

/-- The members of an object make up this record. -/
structure HeldBy (members : Members) (subject : Subject) (r : SignedRecord) : Prop where
  named : ∀ m ∈ members, m.1 ≠ none
  contents : ∃ node, Sole members subject.member (Utf8.encode r.raw, node)
  signature : ∃ spelling hex, Sole members "signature" (spelling, .string (some hex)) ∧
    Hex.Denotes hex.toList r.signature

theorem ofNode_object_eq_some_iff {members : Members} {subject : Subject} {r : SignedRecord} :
    ofNode subject (.object members) = some r ↔ r.HeldBy members subject := by
  simp only [ofNode, Option.bind_eq_bind, Option.bind_eq_some_iff, record?_object_eq_some_iff]
  constructor
  · rintro ⟨entries, ⟨named, found⟩, read⟩
    obtain _ | ⟨first, _ | ⟨second, ⟨⟩⟩⟩ := found
    obtain ⟨⟨raw, node⟩, rfl, once⟩ := found_nil_iff.1 first
    obtain ⟨⟨spelling, node'⟩, rfl, once'⟩ := found_nil_iff.1 second
    simp only [Option.bind_eq_some_iff, Node.member] at read
    obtain ⟨text, decoded, bytes, hex, result⟩ := read
    cases result
    obtain ⟨hex, rfl, denotes⟩ := hexBytes?_eq_some_iff.1 hex
    obtain rfl := Utf8.decode?_eq_some_iff.1 decoded
    exact ⟨named, ⟨_, once⟩, _, _, once', denotes⟩
  · rintro ⟨named, ⟨node, once⟩, spelling, hex, once', denotes⟩
    refine ⟨_, ⟨named, .cons (.there once) (.cons (.there once') .nil)⟩, ?_⟩
    have decoded : Utf8.decode? (Utf8.encode r.raw) = some r.raw := Utf8.decode?_eq_some_iff.2 rfl
    have bytes := hexBytes?_eq_some_iff.2 ⟨hex, rfl, denotes⟩
    simp only [decoded, Node.member, bytes, Option.bind_some]
    rfl

theorem ofText_eq_some_iff {members : Members} {text : String} {subject : Subject}
    {r : SignedRecord} (object : TextOf (.object members) (Utf8.encode text)) :
    ofText subject text = some r ↔ r.HeldBy members subject := by
  rw [ofText, Node.ofString, parse_eq_some_iff.2 object, Option.bind_some,
    ofNode_object_eq_some_iff]

/-- Nothing that makes up a record is refused: the spelling of its contents is a text, since it stands
in one. -/
theorem exists_ofText_iff {members : Members} {text : String} {subject : Subject}
    (object : TextOf (.object members) (Utf8.encode text)) :
    (∃ r, ofText subject text = some r) ↔ Whole members subject := by
  simp only [ofText_eq_some_iff object]
  constructor
  · rintro ⟨r, named, ⟨node, once⟩, spelling, hex, once', denotes⟩
    exact ⟨named, ⟨_, once⟩, spelling, hex, r.signature, once', denotes⟩
  · rintro ⟨named, ⟨⟨spelling, node⟩, once⟩, signature_spelling, hex, bytes, once', denotes⟩
    obtain ⟨raw, rfl⟩ := object.exists_encode once
    exact ⟨{ raw, signature := bytes }, named, ⟨node, once⟩, signature_spelling, hex, once', denotes⟩

/-! ## Writing -/

/-- What stands in front of the contents. -/
def opening : Subject → String
  | .tcbInfo => "\x7b\"tcbInfo\":"
  | .enclaveIdentity => "\x7b\"enclaveIdentity\":"

theorem encode_eq (subject : Subject) (r : SignedRecord) :
    r.encode subject =
      opening subject ++ r.raw ++ ",\"signature\":\"" ++ Hex.encode r.signature ++ "\"\x7d" := by
  have opened : opening subject = "\x7b" ++ (Document.quoted subject.member ++ ":") := by
    cases subject <;> decide +kernel
  have named : ",\"signature\":\"" = "," ++ (Document.quoted "signature" ++ (":" ++ "\"")) := by
    decide +kernel
  have closed : "\"\x7d" = "\"" ++ "\x7d" := by decide +kernel
  rw [opened, named, closed, encode, document, Document.compact, Document.compactMembers,
    Document.compactMembers, Document.compactMembers, String.intercalate_cons_cons,
    String.intercalate_singleton, Document.compact, Document.hex, Document.compact, quoted_hex]
  simp only [String.append_assoc]

theorem textOf_encode (subject : Subject) {r : SignedRecord} {node : Node}
    (value : ValueOf node (Utf8.encode r.raw)) :
    TextOf (.object [(some subject.member, Utf8.encode r.raw, node),
      (some "signature", Utf8.encode (Document.hex r.signature).compact,
        .string (some (Hex.encode r.signature)))]) (Utf8.encode (r.encode subject)) := by
  rw [encode, document]
  have contents : ReadAs (subject.member, .spelt r.raw)
      (some subject.member, Utf8.encode r.raw, node) := .mk value
  have signature : ReadAs ("signature", .hex r.signature)
      (some "signature", Utf8.encode (Document.hex r.signature).compact,
        .string (some (Hex.encode r.signature))) := .mk (valueOf_compact_hex r.signature)
  exact (valueOf_compact_object (.cons contents (.cons signature .nil))).textOf

/-- What is written holds the record, if its contents spell a value. -/
theorem ofText_encode {subject : Subject} {r : SignedRecord} {node : Node}
    (value : ValueOf node (Utf8.encode r.raw)) : ofText subject (r.encode subject) = some r := by
  have different : subject.member ≠ "signature" := by cases subject <;> decide
  refine (ofText_eq_some_iff (textOf_encode subject value)).2
    ⟨by simp, ⟨node, [], _, rfl, ?_⟩, _, _, ⟨[_], [], rfl, ?_⟩, Hex.denotes_encode _⟩
  · simpa using different.symm
  · simpa using different

/-! ## What is kept -/

/-- The text of an object holds a record if its members make one up, in whatever order and among
whatever other members.  The record keeps the spelling of its contents: these are the bytes that
stand in the text as the value of the only member with their name, without the white space around
them; whatever value were put there instead, it would be that member's.  The record is written with
these bytes as they are and with the signature in lower case digits, and what is written is read as
the same record. -/
theorem encode_keeps_spelling (subject : Subject) {text : String} {members : Members}
    (object : TextOf (.object members) (Utf8.encode text)) :
    ((∃ r, ofText subject text = some r) ↔ Whole members subject) ∧
    ∀ r, ofText subject text = some r →
      (∃ before node after front behind,
        members = before ++ (some subject.member, Utf8.encode r.raw, node) :: after ∧
        (∀ m ∈ before ++ after, m.1 ≠ some subject.member) ∧
        Utf8.encode text = front ++ Utf8.encode r.raw ++ behind ∧
        Slot before (some subject.member) after front behind ∧ Trimmed (Utf8.encode r.raw)) ∧
      (∃ spelling hex, Sole members "signature" (spelling, .string (some hex)) ∧
        Hex.Denotes hex.toList r.signature) ∧
      (∃ hex : String, Hex.Denotes hex.toList r.signature ∧
        (∀ c ∈ hex.toList, c ∈ Hex.lowerDigits) ∧
        r.encode subject =
          opening subject ++ r.raw ++ ",\"signature\":\"" ++ hex ++ "\"\x7d") ∧
      ofText subject (r.encode subject) = some r := by
  refine ⟨exists_ofText_iff object, fun r read => ?_⟩
  obtain ⟨-, ⟨node, before, after, rfl, others⟩, signature⟩ := (ofText_eq_some_iff object).1 read
  obtain ⟨front, behind, written, value, slot⟩ := object.slot
  refine ⟨⟨before, node, after, front, behind, rfl, others, written, slot, value.trimmed⟩, signature,
    ⟨_, Hex.denotes_encode _, ?_, encode_eq subject r⟩, ofText_encode value⟩
  rw [Hex.encode, String.toList_ofList]
  exact fun c => Hex.mem_lowerDigits_of_mem_encodeChars

namespace Sample

/-- A record whose contents come behind its signature, under an escaped name and with members that
nobody asks for. -/
def text : String :=
  "\x7b \"old\" : [1, \x7b\"tcbInfo\":2\x7d], \"signature\":\"aB0c\" ,\n\"tcb\\u0049nfo\" :\t" ++
    "\x7b\"b\": 1.0e+2 ,\"a\":\"\\\"\x7d\",\"a\":[ ]\x7d \x7d"

def record : SignedRecord :=
  { raw := "\x7b\"b\": 1.0e+2 ,\"a\":\"\\\"\x7d\",\"a\":[ ]\x7d", signature := [0xAB, 0x0C] }

end Sample

theorem encode_keeps_spelling_sample :
    ofText .tcbInfo Sample.text = some Sample.record ∧
      ofText .tcbInfo (Sample.record.encode .tcbInfo) = some Sample.record := by
  have read : ofText .tcbInfo Sample.text = some Sample.record := by decide +kernel
  have isObject : ((Node.ofString Sample.text).bind members?).isSome = true := by decide +kernel
  obtain ⟨members, found⟩ := Option.isSome_iff_exists.1 isObject
  obtain ⟨node, parsed, object⟩ := Option.bind_eq_some_iff.1 found
  obtain rfl := members?_eq_some_iff.1 object
  exact ⟨read, ((encode_keeps_spelling .tcbInfo (parse_eq_some_iff.1 parsed)).2 _ read).2.2.2⟩

end SignedRecord

end QuoteProver.Collateral
