import QuoteProver.Proofs.Bytes
import QuoteProver.Proofs.Text.Utf8
import QuoteProver.Succinct.Account

/-!
# What a signature stands for

`TypedMessage.signing` makes the hash that is signed with any function for digests in the place of
the one in use, and so shows which byte strings are hashed on the way.  Each of them determines its
parts: the words have a fixed width, and messages of the two types have different numbers of them.
`signingHash_binds` draws the conclusion that two messages with the same hash are the same, unless
two of these byte strings have the same digest.
-/

namespace QuoteProver.Succinct

/-! ## Computations with digests -/

/-- A computation that may ask for digests. -/
inductive Hashing (α : Type) where
  | done (a : α)
  | digest (data : Bytes) (next : Bytes → Hashing α)

namespace Hashing

variable {α β : Type}

protected def bind : Hashing α → (α → Hashing β) → Hashing β
  | done a, f => f a
  | digest data next, f => digest data fun d => (next d).bind f

instance : Monad Hashing where
  pure := done
  bind := Hashing.bind

/-- Asks for the digest of a byte string. -/
def hash (data : Bytes) : Hashing Bytes := digest data done

/-- What a computation gives. -/
def run (H : Bytes → Bytes) : Hashing α → α
  | done a => a
  | digest data next => (next (H data)).run H

/-- The byte strings that are hashed in the course of a computation. -/
def hashed (H : Bytes → Bytes) : Hashing α → List Bytes
  | done _ => []
  | digest data next => data :: (next (H data)).hashed H

section Rules

variable (H : Bytes → Bytes)

@[simp] theorem run_pure (a : α) : (pure a : Hashing α).run H = a := rfl

@[simp] theorem run_hash (data : Bytes) : (hash data).run H = H data := rfl

@[simp] theorem run_bind (x : Hashing α) (f : α → Hashing β) :
    (x >>= f).run H = (f (x.run H)).run H := by
  induction x with
  | done a => rfl
  | digest data next ih => exact ih (H data)

@[simp] theorem hashed_pure (a : α) : (pure a : Hashing α).hashed H = [] := rfl

@[simp] theorem hashed_hash (data : Bytes) : (hash data).hashed H = [data] := rfl

@[simp] theorem hashed_bind (x : Hashing α) (f : α → Hashing β) :
    (x >>= f).hashed H = x.hashed H ++ (f (x.run H)).hashed H := by
  induction x with
  | done a => rfl
  | digest data next ih => exact congrArg (data :: ·) (ih (H data))

end Rules

end Hashing

/-- Two different ones of the given byte strings have the same digest. -/
def Collides (H : Bytes → Bytes) (data : List Bytes) : Prop :=
  ∃ a ∈ data, ∃ b ∈ data, a ≠ b ∧ H a = H b

theorem eq_of_not_collides {H : Bytes → Bytes} {data : List Bytes} (distinct : ¬ Collides H data)
    {a b : Bytes} (ha : a ∈ data) (hb : b ∈ data) (same : H a = H b) : a = b := by
  refine Classical.not_not.1 fun different => distinct ?_
  exact ⟨a, ha, b, hb, different, same⟩

/-! ## Making the hash of a message -/

open Hashing Text

/-- The hash of the domain that messages are signed for. -/
def domainHashing : Hashing Bytes := do
  let type ← hash (Utf8.encode "EIP712Domain(string name,string version)")
  let name ← hash (Utf8.encode "succinct")
  let version ← hash (Utf8.encode "1")
  hash (type ++ name ++ version)

namespace TypedMessage

def wordsHashing : TypedMessage → Hashing (List Bytes)
  | createProof nonce deadline mode version => do
    let text ← hash (Utf8.encode version)
    return [word nonce.toNat, word deadline.toNat, word mode.toNat, text]
  | submitProof nonce proofId => do
    let text ← hash (Utf8.encode proofId)
    return [word nonce.toNat, text]

def structHashing (m : TypedMessage) : Hashing Bytes := do
  let type ← hash (Utf8.encode m.type)
  let words ← m.wordsHashing
  hash (type ++ words.flatten)

/-- The hash that is signed for a message. -/
def signing (m : TypedMessage) : Hashing Bytes := do
  let domain ← domainHashing
  let contents ← m.structHashing
  hash ([0x19, 0x01] ++ domain ++ contents)

theorem run_wordsHashing (m : TypedMessage) : m.wordsHashing.run Crypto.keccak256 = m.words := by
  cases m <;> rfl

theorem run_signing (m : TypedMessage) : m.signing.run Crypto.keccak256 = m.signingHash := by
  simp only [signing, structHashing, domainHashing, run_bind, run_hash, run_wordsHashing]
  rfl

/-! ## Messages with the same hash -/

theorem word_inj {m n : Nat} (hm : m < 256 ^ 32) (hn : n < 256 ^ 32) (same : word m = word n) :
    m = n :=
  Bytes.littleEndian_inj hm hn (List.reverse_inj.1 same)

theorem word_inj_uint64 {m n : UInt64} (same : word m.toNat = word n.toNat) : m = n := by
  have fits (k : UInt64) : k.toNat < 256 ^ 32 := Nat.lt_of_lt_of_le k.toNat_lt (by decide)
  exact UInt64.toNat_inj.1 (word_inj (fits m) (fits n) same)

theorem word_inj_uint32 {m n : UInt32} (same : word m.toNat = word n.toNat) : m = n := by
  have fits (k : UInt32) : k.toNat < 256 ^ 32 := Nat.lt_of_lt_of_le k.toNat_lt (by decide)
  exact UInt32.toNat_inj.1 (word_inj (fits m) (fits n) same)

@[simp] theorem length_word (n : Nat) : (word n).length = 32 := by
  simp [word, Bytes.bigEndian]

section Binding

variable {H : Bytes → Bytes}

theorem text_inj {data : List Bytes} (distinct : ¬ Collides H data) {s t : String}
    (hs : Utf8.encode s ∈ data) (ht : Utf8.encode t ∈ data)
    (same : H (Utf8.encode s) = H (Utf8.encode t)) : s = t :=
  Utf8.encode_injective (eq_of_not_collides distinct hs ht same)

variable (width : ∀ data, (H data).length = 32)

include width

/-- The words of a message tell its type by their number, and its fields one by one. -/
theorem eq_of_same_words {data : List Bytes} (distinct : ¬ Collides H data) {m₁ m₂ : TypedMessage}
    (h₁ : ∀ x ∈ m₁.wordsHashing.hashed H, x ∈ data) (h₂ : ∀ x ∈ m₂.wordsHashing.hashed H, x ∈ data)
    (same : (m₁.wordsHashing.run H).flatten = (m₂.wordsHashing.run H).flatten) : m₁ = m₂ := by
  cases m₁ with
  | createProof nonce deadline mode version =>
    cases m₂ with
    | createProof nonce' deadline' mode' version' =>
      simp only [wordsHashing, run_bind, run_hash, run_pure, List.flatten_cons, List.flatten_nil,
        List.append_nil] at same
      obtain ⟨nonces, same⟩ := List.append_inj same (by simp)
      obtain ⟨deadlines, same⟩ := List.append_inj same (by simp)
      obtain ⟨modes, texts⟩ := List.append_inj same (by simp)
      have versions : version = version' :=
        text_inj distinct (h₁ _ (by simp [wordsHashing])) (h₂ _ (by simp [wordsHashing])) texts
      rw [word_inj_uint64 nonces, word_inj_uint64 deadlines, word_inj_uint32 modes, versions]
    | submitProof nonce' proofId' =>
      -- Four words are not as long as two.
      have lengths := congrArg List.length same
      simp [wordsHashing, width] at lengths
  | submitProof nonce proofId =>
    cases m₂ with
    | createProof nonce' deadline' mode' version' =>
      have lengths := congrArg List.length same
      simp [wordsHashing, width] at lengths
    | submitProof nonce' proofId' =>
      simp only [wordsHashing, run_bind, run_hash, run_pure, List.flatten_cons, List.flatten_nil,
        List.append_nil] at same
      obtain ⟨nonces, texts⟩ := List.append_inj same (by simp)
      have proofIds : proofId = proofId' :=
        text_inj distinct (h₁ _ (by simp [wordsHashing])) (h₂ _ (by simp [wordsHashing])) texts
      rw [word_inj_uint64 nonces, proofIds]

theorem eq_of_same_signing {data : List Bytes} (distinct : ¬ Collides H data) {m₁ m₂ : TypedMessage}
    (h₁ : ∀ x ∈ m₁.signing.hashed H, x ∈ data) (h₂ : ∀ x ∈ m₂.signing.hashed H, x ∈ data)
    (same : m₁.signing.run H = m₂.signing.run H) : m₁ = m₂ := by
  simp only [signing, structHashing, hashed_bind, hashed_hash, run_bind, run_hash, List.mem_append,
    List.mem_singleton] at h₁ h₂ same
  -- From the outside in: the hash that is signed, the hash of the contents, the words.
  have contents := eq_of_not_collides distinct (h₁ _ (by simp)) (h₂ _ (by simp)) same
  have structs := eq_of_not_collides distinct (h₁ _ (by simp)) (h₂ _ (by simp))
    (List.append_cancel_left contents)
  have words := (List.append_inj structs (by simp only [width])).2
  exact eq_of_same_words width distinct (fun x hx => h₁ x (by simp [hx]))
    (fun x hx => h₂ x (by simp [hx])) words

end Binding

/-- The hash of a message binds its type and all its fields: two messages with the same hash are the
same, unless two different ones of the byte strings that were hashed for them have the same digest. -/
theorem signingHash_binds :
    (∀ m : TypedMessage, m.signing.run Crypto.keccak256 = m.signingHash) ∧
    ∀ H : Bytes → Bytes, (∀ data, (H data).length = 32) → ∀ m₁ m₂ : TypedMessage,
      m₁.signing.run H = m₂.signing.run H →
      m₁ = m₂ ∨ Collides H (m₁.signing.hashed H ++ m₂.signing.hashed H) := by
  refine ⟨run_signing, fun H width m₁ m₂ same => ?_⟩
  by_cases collides : Collides H (m₁.signing.hashed H ++ m₂.signing.hashed H)
  · exact .inr collides
  · exact .inl <| eq_of_same_signing width collides (fun x hx => List.mem_append_left _ hx)
      (fun x hx => List.mem_append_right _ hx) same

/-- With a function that has one digest for everything, two different messages have the same hash. -/
theorem signingHash_binds_constant :
    let H : Bytes → Bytes := fun _ => List.replicate 32 0
    let m₁ : TypedMessage := .submitProof 1 "a"
    let m₂ : TypedMessage := .createProof 1 2 3 "a"
    (∀ data, (H data).length = 32) ∧ m₁.signing.run H = m₂.signing.run H ∧ m₁ ≠ m₂ ∧
      Collides H (m₁.signing.hashed H ++ m₂.signing.hashed H) := by
  intro H m₁ m₂
  have width (data : Bytes) : (H data).length = 32 := by simp [H]
  have same : m₁.signing.run H = m₂.signing.run H := by simp only [signing, run_bind, run_hash, H]
  have different : m₁ ≠ m₂ := by decide
  exact ⟨width, same, different, (signingHash_binds.2 H width m₁ m₂ same).resolve_left different⟩

end TypedMessage

end QuoteProver.Succinct
