import QuoteProver.Collateral.Basic
import QuoteProver.Prover.Proof
import QuoteProver.Proofs.Json.Records
import QuoteProver.Proofs.Json.Writing

/-!
# Records of collateral and of proofs

Collateral and proofs are kept as JSON records.  `Artifacts.lossless` says that nothing is lost in
them: what is written, in one line or over several, is read as the same value, and a record that
somebody else has written is read by its members alone.  The one thing that a record must not have,
besides what `ReadsRecord` names, is a member whose name is no text (`Artifacts.stray_name_refused`).
-/

namespace QuoteProver

open Json Text

/-! ## Choices -/

namespace Json.Node

/-- The value names one of several choices. -/
inductive Chooses (name : String) : Node → Prop
  | text : Chooses name (.string (some name))
  | object {spelling : Bytes} : Chooses name (.object [(some name, spelling, .null)])

theorem choice?_eq_some_iff {α : Type} {choices : List (String × α)} {node : Node} {a : α} :
    node.choice? choices = some a ↔ ∃ name, Chooses name node ∧ choices.lookup name = some a := by
  constructor
  · intro h
    unfold choice? at h
    split at h
    · exact ⟨_, .text, h⟩
    · exact ⟨_, .object, h⟩
    · cases h
  · rintro ⟨name, _ | _, found⟩ <;> exact found

end Json.Node

/-! ## Collateral -/

namespace Collateral

/-- The collateral that a text holds. -/
def ofText (text : Bytes) : Option Collateral := (Node.parse text).bind ofNode

/-- What the record of some collateral asks of an object. -/
def asked (c : Collateral) : Requirements := fieldNames.zip (c.fields.map HexText)

/-- The fields of collateral as texts. -/
def texts (c : Collateral) : List (String × String) :=
  (fieldNames.zip c.fields).map fun (name, field) => (name, Hex.encode field)

theorem ofNode_eq_some_iff {node : Node} {c : Collateral} :
    ofNode node = some c ↔
      ((node.record? fieldNames []).bind fun entries =>
        entries.mapM (Node.member Node.hexBytes?)) = some c.fields := by
  simp only [ofNode, Option.bind_eq_bind, ← Option.bind_assoc]
  generalize (node.record? fieldNames []).bind _ = values
  constructor
  · intro h
    obtain ⟨values, rfl, made⟩ := Option.bind_eq_some_iff.1 h
    split at made
    · cases made
      rfl
    · cases made
  · rintro rfl
    rfl

theorem ofText_eq_some_iff {members : Members} {text : Bytes}
    (object : TextOf (.object members) text) (c : Collateral) :
    ofText text = some c ↔ Meets members c.asked := by
  rw [ofText, parse_eq_some_iff.2 object, Option.bind_some, ofNode_eq_some_iff,
    record?_mapM_eq_some_iff, asked, meets_zip_iff rfl, List.forall₂_map_right_iff]
  simp only [hexText_eq]

theorem readsRecord : ReadsRecord ofText fieldNames fieldNames asked := by
  refine .of_exact (fun object c => ofText_eq_some_iff object c) (fun c => rfl) (fun _ => id) ?_
  intro c r mem _
  obtain ⟨bytes, -, same⟩ := List.mem_map.1 (List.of_mem_zip mem).2
  exact ⟨bytes, same.symm⟩

theorem document_eq (c : Collateral) : c.document = textsDocument c.texts := by
  rw [document, textsDocument, texts, List.map_map]
  rfl

theorem meets_written (c : Collateral) : Meets (textsMembers c.texts) c.asked := by
  refine meets_texts ?_ fun r mem => ?_
  · rw [texts, List.map_map]
    exact (by decide : fieldNames.Nodup)
  · rw [asked, List.zip_map_right] at mem
    obtain ⟨⟨name, field⟩, written, rfl⟩ := List.mem_map.1 mem
    exact ⟨Hex.encode field, List.mem_map.2 ⟨_, written, rfl⟩, _, rfl, Hex.denotes_encode field⟩

/-- What is written is read as the same collateral. -/
theorem ofText_document (c : Collateral) :
    ofText (Utf8.encode c.document.compact) = some c ∧
      ofText (Utf8.encode c.document.pretty) = some c := by
  rw [document_eq]
  exact readsRecord.read_texts c.meets_written

end Collateral

/-! ## Proofs -/

namespace Prover

theorem ProofSystem.ofNode_eq_some_iff {node : Node} {system : ProofSystem} :
    ofNode node = some system ↔ Node.Chooses system.name node := by
  have named (name : String) :
      (all.map fun system => (system.name, system)).lookup name = some system ↔
        name = system.name := by
    cases system <;> grind [ProofSystem.name, all]
  simp only [ofNode, Node.choice?_eq_some_iff, named, exists_eq_right]

namespace Proof

/-- The proof that a text holds. -/
def ofText (text : Bytes) : Option Proof := (Node.parse text).bind ofNode

/-- The names of the members of the record of a proof. -/
def fieldNames : List String := ["zk_type", "output", "proof"]

/-- The names of those members that are hexadecimal texts. -/
def hexNames : List String := ["output", "proof"]

/-- What the record of a proof asks of an object. -/
def asked (p : Proof) : Requirements :=
  fieldNames.zip [Node.Chooses p.system.name, HexText p.output, HexText p.proof]

/-- The fields of a proof as texts. -/
def texts (p : Proof) : List (String × String) :=
  fieldNames.zip [p.system.name, Hex.encode p.output, Hex.encode p.proof]

theorem ofText_eq_some_iff {members : Members} {text : Bytes}
    (object : TextOf (.object members) text) (p : Proof) :
    ofText text = some p ↔ Meets members p.asked := by
  have chooses : Node.Chooses p.system.name = fun node => ProofSystem.ofNode node = some p.system :=
    funext fun node => propext ProofSystem.ofNode_eq_some_iff.symm
  rw [ofText, parse_eq_some_iff.2 object, Option.bind_some, asked, meets_zip_iff rfl, fieldNames,
    chooses, hexText_eq, hexText_eq, ofNode]
  simp only [Option.bind_eq_bind, Option.bind_eq_some_iff, record?_object_eq_some_iff]
  constructor
  · rintro ⟨entries, ⟨named, found⟩, made⟩
    obtain _ | ⟨system, _ | ⟨output, _ | ⟨proof, ⟨⟩⟩⟩⟩ := found
    simp only [Option.bind_eq_some_iff] at made
    obtain ⟨_, system_read, _, output_read, _, proof_read, ⟨⟩⟩ := made
    exact ⟨named, .cons (found_member_iff.1 ⟨_, system, system_read⟩)
      (.cons (found_member_iff.1 ⟨_, output, output_read⟩)
        (.cons (found_member_iff.1 ⟨_, proof, proof_read⟩) .nil))⟩
  · rintro ⟨named, held⟩
    obtain _ | ⟨system, _ | ⟨output, _ | ⟨proof, ⟨⟩⟩⟩⟩ := held
    obtain ⟨_, system, system_read⟩ := found_member_iff.2 system
    obtain ⟨_, output, output_read⟩ := found_member_iff.2 output
    obtain ⟨_, proof, proof_read⟩ := found_member_iff.2 proof
    refine ⟨_, ⟨named, .cons system (.cons output (.cons proof .nil))⟩, ?_⟩
    simp only [system_read, output_read, proof_read, Option.bind_some]
    rfl

theorem forall_asked {P : String × (Node → Prop) → Prop} {p : Proof} :
    (∀ r ∈ p.asked, P r) ↔ P ("zk_type", Node.Chooses p.system.name) ∧
      P ("output", HexText p.output) ∧ P ("proof", HexText p.proof) := by
  simp [asked, fieldNames]

theorem readsRecord : ReadsRecord ofText fieldNames hexNames asked := by
  refine .of_exact (fun object p => ofText_eq_some_iff object p) (fun p => rfl) (by decide) fun p => ?_
  have plain : "zk_type" ∉ hexNames := by decide
  exact forall_asked.2 ⟨fun listed => absurd listed plain, fun _ => ⟨p.output, rfl⟩,
    fun _ => ⟨p.proof, rfl⟩⟩

theorem document_eq (p : Proof) : p.document = textsDocument p.texts := rfl

theorem meets_written (p : Proof) : Meets (textsMembers p.texts) p.asked := by
  refine meets_texts (by decide : fieldNames.Nodup) (forall_asked.2 ⟨?_, ?_, ?_⟩)
  · exact ⟨_, .head _, .text⟩
  · exact ⟨_, .tail _ (.head _), _, rfl, Hex.denotes_encode p.output⟩
  · exact ⟨_, .tail _ (.tail _ (.head _)), _, rfl, Hex.denotes_encode p.proof⟩

/-- What is written is read as the same proof. -/
theorem ofText_document (p : Proof) :
    ofText (Utf8.encode p.document.compact) = some p ∧
      ofText (Utf8.encode p.document.pretty) = some p := by
  rw [document_eq]
  exact readsRecord.read_texts p.meets_written

end Proof

end Prover

/-! ## What is kept -/

namespace Artifacts

open Prover

/-- Collateral and proofs are read as they have been written, in one line or over several.  Records
that are written in another way are read by what their members say: it does not matter in which order
these stand, which other members stand among them, and in which case their hexadecimal digits are.
Nothing is read from an object in which a member is missing or stands twice, or in which a byte string
has an odd number of digits or a character that is no digit. -/
theorem lossless :
    (∀ c : Collateral, Collateral.ofText (Utf8.encode c.document.compact) = some c ∧
      Collateral.ofText (Utf8.encode c.document.pretty) = some c) ∧
    ReadsRecord Collateral.ofText Collateral.fieldNames Collateral.fieldNames Collateral.asked ∧
    (∀ p : Proof, Proof.ofText (Utf8.encode p.document.compact) = some p ∧
      Proof.ofText (Utf8.encode p.document.pretty) = some p) ∧
    ReadsRecord Proof.ofText Proof.fieldNames Proof.hexNames Proof.asked :=
  ⟨Collateral.ofText_document, Collateral.readsRecord, Proof.ofText_document, Proof.readsRecord⟩

namespace Sample

def written : Proof := { system := .succinct, output := [0xAB], proof := [0xC0, 0x0D] }

/-- The members of its record from the last to the first, behind a note and with large letters. -/
def others : List (String × String) :=
  [("note", "x"), ("proof", "C00d"), ("output", "AB"), ("zk_type", "succinct")]

theorem rearranged : Rearranged Proof.fieldNames Proof.hexNames (textsMembers written.texts)
    (textsMembers others) := by
  have output : Hex.SameDigits "ab".toList "AB".toList :=
    .cons (.inr ⟨10, by decide, by decide⟩) (.cons (.inr ⟨11, by decide, by decide⟩) .nil)
  have proof : Hex.SameDigits "c00d".toList "C00d".toList :=
    .cons (.inr ⟨12, by decide, by decide⟩) (.cons (.inl rfl) (.cons (.inl rfl) (.cons (.inl rfl) .nil)))
  refine ⟨textsMembers others.tail.reverse, textsMembers [("note", "x")],
    .cons .same (.cons (.digits (by decide) output) (.cons (.digits (by decide) proof) .nil)), ?_,
    (List.reverse_perm (textsMembers others)).symm⟩
  simp [textsMembers, Proof.fieldNames]

end Sample

theorem lossless_sample :
    Proof.ofText (Utf8.encode (textsDocument Sample.others).compact) = some Sample.written := by
  obtain ⟨-, -, kept, reads⟩ := lossless
  have same := reads.rearranged (valueOf_compact_texts _).textOf (valueOf_compact_texts _).textOf
    Sample.rearranged
  rw [← same, ← Proof.document_eq]
  exact (kept _).1

namespace Sample

/-- A proof without any bytes. -/
def empty : Proof := { system := .risc0, output := [], proof := [] }

/-- Its record with one more member, whose name is half of a surrogate pair. -/
def text : String :=
  "\x7b\"zk_type\":\"risc0\",\"output\":\"\",\"proof\":\"\",\"\\ud800\":null\x7d"

theorem textOf_text :
    TextOf (.object (textsMembers empty.texts ++ [(none, Utf8.encode "null", .null)]))
      (Utf8.encode text) := by
  have units : UnitsOf [.unit 0xD800] [0x5C, 0x75, 0x64, 0x38, 0x30, 0x30] := .number rfl .nil
  have half : StringOf none (Utf8.encode "\"\\ud800\"") := StringOf.mk units
  have stray : Spells "\"\\ud800\":null" (none, Utf8.encode "null", .null) :=
    MemberOf.mk half Blanks.nil Blanks.nil .null
  have others := spells_compactMembers (readAs_texts empty.texts)
  exact (valueOf_members (List.rel_append others (.cons stray .nil))).textOf

end Sample

/-- A further member can make a record unreadable: names have to be texts. -/
theorem stray_name_refused :
    Proof.ofText (Utf8.encode Sample.empty.document.compact) = some Sample.empty ∧
      TextOf (.object (textsMembers Sample.empty.texts ++ [(none, Utf8.encode "null", .null)]))
        (Utf8.encode Sample.text) ∧
      Proof.ofText (Utf8.encode Sample.text) = none :=
  ⟨Sample.empty.ofText_document.1, Sample.textOf_text, by decide +kernel⟩

end Artifacts

end QuoteProver
