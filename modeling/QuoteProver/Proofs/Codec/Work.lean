import QuoteProver.Proofs.Bonsai.ReceiptWire
import QuoteProver.Proofs.Codec.Causes

/-!
# The work of reading a list

The number in front of a list is whatever was sent, and what ends the loop over the elements in time is
that each of them takes at least one byte (`Decoder.Shortens`).  `listIn` is the loop in any monad: among
decoders it is the reader of lists (`decode_counted`), and in `Metered`, which counts the elements that
are begun, it gives the same results and their work.  `Course` tells how the loop ends and how many
elements were begun by then, and `ListElement.work_bounded` bounds them for all types of which lists are
read.
-/

namespace QuoteProver.Codec

variable {α β : Type}

/-! ## The loop in any monad -/

def Exactly.nil : Exactly 0 α := ⟨[], List.length_nil⟩

def Exactly.cons {n : Nat} (a : α) (as : Exactly n α) : Exactly (n + 1) α :=
  ⟨a :: as.1, congrArg (· + 1) as.2⟩

section Loop

variable {m : Type → Type} [Monad m]

/-- Reads `n` elements, one after another. -/
def repeatIn (element : m α) : (n : Nat) → m (Exactly n α)
  | 0 => return .nil
  | n + 1 => do
    let a ← element
    return .cons a (← repeatIn element n)

/-- Reads the length of a list and as many elements. -/
def listIn (length : m UInt64) (element : m α) : m (List α) := do
  let n ← length
  return (← repeatIn element n.toNat).1

end Loop

namespace Format

theorem decodeMany_eq_repeatIn (f : Format α) (n : Nat) : f.decodeMany n = repeatIn f.decode n := by
  induction n with
  | zero => rfl
  | succ n ih =>
    rw [decodeMany, repeatIn, ih]
    rfl

theorem decode_counted (f : Format α) : (counted f).decode = listIn length.decode f.decode := by
  have loop (n : UInt64) : f.decodeMany n.toNat = repeatIn f.decode n.toNat :=
    f.decodeMany_eq_repeatIn n.toNat
  simp only [counted, listIn, loop]

end Format

/-! ## Counting -/

/-- A decoder with a count that outlives failures. -/
abbrev Metered (α : Type) := StateT Bytes (ExceptT Failure (StateM Nat)) α

namespace Metered

/-- Runs a decoder without counting it. -/
def uncounted (x : Decoder α) : Metered α := fun data count => (x data, count)

/-- Runs a decoder and counts it as begun, however it ends. -/
def begun (x : Decoder α) : Metered α := fun data count => (x data, count + 1)

theorem bind_apply (x : Metered α) (g : α → Metered β) (data : Bytes) (count : Nat) :
    (x >>= g) data count =
      ExceptT.bindCont (fun p => g p.1 p.2) (x data count).1 (x data count).2 := rfl

theorem bind_of_ok {x : Metered α} {g : α → Metered β} {data rest : Bytes} {count count' : Nat} {a : α}
    (h : x data count = (.ok (a, rest), count')) : (x >>= g) data count = g a rest count' := by
  rw [bind_apply, h]
  rfl

theorem bind_of_error {x : Metered α} {g : α → Metered β} {data : Bytes} {count count' : Nat}
    {failure : Failure} (h : x data count = (.error failure, count')) :
    (x >>= g) data count = (.error failure, count') := by
  rw [bind_apply, h]
  rfl

theorem begun_eq {x : Decoder α} {data : Bytes} {result : Except Failure (α × Bytes)}
    (h : x data = result) (count : Nat) : begun x data count = (result, count + 1) := by
  rw [← h]
  rfl

end Metered

namespace Format

open Metered

/-- Reads a list and counts the elements that are begun. -/
def meteredList (f : Format α) : Metered (List α) := listIn (uncounted length.decode) (begun f.decode)

/-- The number of elements that the reader of a list begins to read. -/
def listWork (f : Format α) (data : Bytes) : Nat := (f.meteredList data 0).2

/-! ## One run of the loop -/

/-- How reading `n` elements ends, with the number of those that were begun: all of them are read, or
the one after some that are read fails, and none is begun after it. -/
inductive Course (f : Format α) (n : Nat) (data : Bytes) :
    Except Failure (Exactly n α × Bytes) → Nat → Prop
  | all {as : Exactly n α} {rest : Bytes} : f.ReadsRun as.1 data rest →
      Course f n data (.ok (as, rest)) n
  | stops {as : List α} {mid : Bytes} {failure : Failure} : as.length < n →
      f.ReadsRun as data mid → f.decode mid = .error failure →
      Course f n data (.error failure) (as.length + 1)

/-- Puts an element in front of what was read behind it. -/
def inFront {n : Nat} (a : α) (p : Exactly n α × Bytes) : Exactly (n + 1) α × Bytes := (p.1.cons a, p.2)

section Step

variable {f : Format α} {n work : Nat} {data mid : Bytes} {a : α}
  {result : Except Failure (Exactly n α × Bytes)}

theorem Course.of_error {failure : Failure} (failed : f.decode data = .error failure) :
    f.Course (n + 1) data (.error failure) 1 :=
  have short : ([] : List α).length < n + 1 := Nat.succ_pos n
  .stops short (.nil data) failed

/-- An element in front of a loop is one more that is begun. -/
theorem Course.cons (first : f.decode data = .ok (a, mid)) (course : f.Course n mid result work) :
    f.Course (n + 1) data (result.map (inFront a)) (work + 1) := by
  cases course with
  | all run => exact .all (.cons first run)
  | @stops as _ _ short run failed =>
    have longer : (a :: as).length < n + 1 := Nat.succ_lt_succ short
    exact .stops longer (.cons first run) failed

theorem decodeMany_succ (first : f.decode data = .ok (a, mid)) :
    f.decodeMany (n + 1) data = (f.decodeMany n mid).map (inFront a) := by
  rw [decodeMany, Decoder.bind_of_ok first]
  cases others : f.decodeMany n mid with
  | error failure => exact Decoder.bind_of_error others
  | ok p => exact Decoder.bind_of_ok others

theorem repeatIn_begun_succ (first : f.decode data = .ok (a, mid)) {count : Nat}
    (others : repeatIn (begun f.decode) n mid (count + 1) = (result, count + 1 + work)) :
    repeatIn (begun f.decode) (n + 1) data count =
      (result.map (inFront a), count + (work + 1)) := by
  rw [repeatIn, bind_of_ok (begun_eq first count), Nat.add_comm work 1, ← Nat.add_assoc]
  cases result with
  | error failure => exact bind_of_error others
  | ok p => exact bind_of_ok others

end Step

/-- The count goes up by the work of the loop, and nothing else differs from reading without it. -/
theorem exists_course (f : Format α) (n : Nat) (data : Bytes) :
    ∃ work, f.Course n data (f.decodeMany n data) work ∧
      ∀ count, repeatIn (begun f.decode) n data count = (f.decodeMany n data, count + work) := by
  induction n generalizing data with
  | zero => exact ⟨0, .all (.nil data), fun count => rfl⟩
  | succ n ih =>
    cases first : f.decode data with
    | error failure =>
      rw [decodeMany, Decoder.bind_of_error first]
      exact ⟨1, .of_error first, fun count => bind_of_error (begun_eq first count)⟩
    | ok read =>
      obtain ⟨a, mid⟩ := read
      obtain ⟨work, course, metered⟩ := ih mid
      rw [decodeMany_succ first]
      exact ⟨work + 1, course.cons first,
        fun count => repeatIn_begun_succ first (metered (count + 1))⟩

/-! ## Whole lists -/

/-- What is read as a list, without the proof of its length. -/
def asList {n : Nat} (p : Exactly n α × Bytes) : List α × Bytes := (p.1.1, p.2)

theorem decode_counted_of_length {f : Format α} {n : UInt64} {data following : Bytes}
    (announced : length.decode data = .ok (n, following)) :
    (counted f).decode data = (f.decodeMany n.toNat following).map asList := by
  have loop : (counted f).decode data =
      (Subtype.val <$> f.decodeMany n.toNat : Decoder (List α)) following :=
    Decoder.bind_of_ok announced
  rw [loop]
  cases read : f.decodeMany n.toNat following with
  | error failure => exact Decoder.map_eq_error_iff.2 read
  | ok p => exact Decoder.map_eq_ok_iff.2 ⟨p.1, read, rfl⟩

/-- Counting starts with the loop, behind the length, and does not change what is read. -/
theorem exists_course_counted (f : Format α) {n : UInt64} {data following : Bytes}
    (announced : length.decode data = .ok (n, following)) :
    ∃ work, f.Course n.toNat following (f.decodeMany n.toNat following) work ∧
      f.meteredList data 0 = ((counted f).decode data, work) := by
  obtain ⟨work, course, metered⟩ := f.exists_course n.toNat following
  have front : uncounted length.decode data 0 = (.ok (n, following), 0) := congrArg (·, 0) announced
  have loop := metered 0
  rw [Nat.zero_add] at loop
  refine ⟨work, course, ?_⟩
  rw [meteredList, listIn, bind_of_ok front, decode_counted_of_length announced]
  cases read : f.decodeMany n.toNat following with
  | error failure =>
    rw [read] at loop
    exact bind_of_error loop
  | ok p =>
    rw [read] at loop
    exact bind_of_ok loop

end Format

/-! ## Elements take bytes -/

/-- What is read takes at least one byte. -/
def Decoder.Shortens (x : Decoder α) : Prop :=
  ∀ data a rest, x data = .ok (a, rest) → rest.length < data.length

namespace Format

/-- A format with one spelling takes as many bytes as it writes. -/
theorem Canonical.shortens {f : Format α} {P : α → Prop} (h : f.Canonical P)
    (size : ∀ a, 0 < (f.encode a).length) : f.decode.Shortens := by
  intro data a rest read
  obtain ⟨front, rfl, -, rfl⟩ := h data a rest read
  have := size a
  rw [List.length_append]
  omega

theorem ReadsRun.length_le {f : Format α} {as : List α} {data rest : Bytes}
    (run : f.ReadsRun as data rest) (h : f.decode.Shortens) :
    as.length + rest.length ≤ data.length := by
  induction run with
  | nil rest => simp
  | cons read _ ih =>
    have := h _ _ _ read
    rw [List.length_cons]
    omega

/-- Each element that is begun, but for the last, has taken a byte. -/
theorem Course.work_le {f : Format α} {n work : Nat} {data : Bytes}
    {result : Except Failure (Exactly n α × Bytes)} (course : f.Course n data result work)
    (h : f.decode.Shortens) : work ≤ min n (data.length + 1) := by
  cases course with
  | @all as rest run =>
    have := run.length_le h
    have := as.2
    omega
  | stops short run _ =>
    have := run.length_le h
    omega

end Format

/-! ## The types of elements -/

/-- The types of which lists are read. -/
inductive ListElement where
  | u16 | u32 | u64
  | digest
  | text
  | bytes
  | optionalU32
  | assumption
  deriving Repr, DecidableEq

namespace ListElement

open Bonsai

def Value : ListElement → Type
  | u16 => UInt16
  | u32 => UInt32
  | u64 => UInt64
  | digest => Digest
  | text => String
  | bytes => Bytes
  | optionalU32 => Option UInt32
  | assumption => MaybePruned Assumption

def format : (e : ListElement) → Format e.Value
  | u16 => .uint16
  | u32 => .uint32
  | u64 => .uint64
  | digest => .digest
  | text => .text
  | bytes => .bytes
  | optionalU32 => .option .uint32
  | assumption => MaybePruned.format Assumption.format

theorem shortens (e : ListElement) : e.format.decode.Shortens := by
  cases e with
  | u16 => exact Format.Canonical.uint16.shortens fun n => by simp [Format.uint16]
  | u32 => exact Format.Canonical.uint32.shortens fun n => by simp [Format.uint32]
  | u64 => exact Format.Canonical.uint64.shortens fun n => by simp [Format.uint64]
  | digest =>
    refine Format.Canonical.digest.shortens fun d => ?_
    rw [Format.encode_digest, d.2]
    exact Nat.zero_lt_succ 31
  | text =>
    refine Format.Canonical.text.shortens fun s => ?_
    rw [Format.encode_text, Format.encode_bytes, List.length_append, Bytes.length_littleEndian]
    omega
  | bytes =>
    refine Format.Canonical.bytes.shortens fun bs => ?_
    rw [Format.encode_bytes, List.length_append, Bytes.length_littleEndian]
    omega
  | optionalU32 =>
    refine (Format.Canonical.option .uint32).shortens fun a => ?_
    cases a <;> simp
  | assumption =>
    refine (MaybePruned.canonical Assumption.canonical).shortens fun a => ?_
    rw [MaybePruned.encode_format]
    cases a with
    | value a | pruned digest =>
      rw [MaybePruned.wire, wireWord, List.length_append, Bytes.length_littleEndian]
      omega

/-- Reading a list is the loop `listIn`, and its work can be counted without changing what is read.
However many elements are announced, no more of them are begun than that, and no more than one for each
byte behind the length and one besides.  More elements than bytes are never read.  A list that is read has
as many elements as are announced, all of them begun; otherwise there are elements that are read, and
the one after them fails and is the last to be begun. -/
theorem work_bounded (e : ListElement) {n : UInt64} {data following : Bytes}
    (announced : data = Bytes.littleEndian 8 n.toNat ++ following) :
    (Format.counted e.format).decode = listIn Format.length.decode e.format.decode ∧
      (e.format.meteredList data 0).1 = (Format.counted e.format).decode data ∧
      e.format.listWork data ≤ min n.toNat (following.length + 1) ∧
      (following.length < n.toNat →
        ∃ failure, (Format.counted e.format).decode data = .error failure) ∧
      (∀ as rest, (Format.counted e.format).decode data = .ok (as, rest) →
        as.length = n.toNat ∧ n.toNat ≤ following.length ∧ e.format.listWork data = n.toNat) ∧
      ∀ failure, (Format.counted e.format).decode data = .error failure →
        ∃ as mid, e.format.ReadsRun as following mid ∧ e.format.decode mid = .error failure ∧
          e.format.listWork data = as.length + 1 := by
  have length : Format.length.decode data = .ok (n, following) :=
    Format.decode_length_eq_ok_iff.2 announced
  obtain ⟨work, course, metered⟩ := e.format.exists_course_counted length
  have listWork : e.format.listWork data = work := by rw [Format.listWork, metered]
  rw [listWork, metered, Format.decode_counted_of_length length]
  refine ⟨e.format.decode_counted, rfl, course.work_le e.shortens, ?_⟩
  generalize e.format.decodeMany n.toNat following = result at course
  cases course with
  | @all as rest run =>
    have held := run.length_le e.shortens
    have size := as.2
    refine ⟨fun short => by omega, ?_, nofun⟩
    rintro _ _ ⟨⟩
    exact ⟨size, by omega, rfl⟩
  | stops _ run failed =>
    refine ⟨fun _ => ⟨_, rfl⟩, nofun, ?_⟩
    rintro _ ⟨⟩
    exact ⟨_, _, run, failed, rfl⟩

namespace Sample

/-- As many optional values as can be announced, and three bytes, each of which is a missing one. -/
def missing : Bytes := [0xFF, 0xFF, 0xFF, 0xFF, 0xFF, 0xFF, 0xFF, 0xFF, 0, 0, 0]

end Sample

/-- The three are read, and the fourth is the last to be begun: the bound is met. -/
theorem work_bounded_missing :
    Sample.missing = Bytes.littleEndian 8 (UInt64.toNat 0xFFFFFFFFFFFFFFFF) ++ [0, 0, 0] ∧
      ListElement.optionalU32.format.listWork Sample.missing = 4 ∧
      ListElement.optionalU32.format.listWork Sample.missing ≤
        min (UInt64.toNat 0xFFFFFFFFFFFFFFFF) (3 + 1) ∧
      ∃ failure, (Format.counted ListElement.optionalU32.format).decode Sample.missing =
        .error failure := by
  have announced : Sample.missing =
      Bytes.littleEndian 8 (UInt64.toNat 0xFFFFFFFFFFFFFFFF) ++ [0, 0, 0] := by decide +kernel
  obtain ⟨-, -, bound, fails, -⟩ := work_bounded .optionalU32 announced
  exact ⟨announced, by decide +kernel, bound, fails (by decide +kernel)⟩

end ListElement

end QuoteProver.Codec
