import QuoteProver.Codec.Stream
import QuoteProver.Proofs.Codec.Reading

/-!
# Streams that are cut

A stream of items is written, its first `n` bytes are kept, followed by anything if those are all
of them (`keep`), and the items are read one after another.  `decodeItems_keep` says how far the
reader gets: past every item that ends within the first `n` bytes, and then it wants more bytes.
-/

namespace QuoteProver

/-- All lengths in a standard input can be written. -/
def Succinct.Stdin.Fits (s : Succinct.Stdin) : Prop :=
  s.buffer.length < 2 ^ 64 ∧ (∀ bs ∈ s.buffer, bs.length < 2 ^ 64) ∧ s.proofs.length < 2 ^ 64

namespace Codec

open Succinct (Stdin)

/-! ## Values that fit -/

/-- All lengths in a value can be written: they are below `2 ^ 64`. -/
def Shape.Fits : (s : Shape) → s.Value → Prop
  | u8, _ | u16, _ | u32, _ | u64, _ => True
  | bytes, (bs : Bytes) => bs.length < 2 ^ 64
  | text, (s : String) => (Text.Utf8.encode s).length < 2 ^ 64
  | stdin, (s : Stdin) => s.Fits
  | list element, (as : List element.Value) => as.length < 2 ^ 64 ∧ ∀ a ∈ as, element.Fits a
  | array _ element, (as : Exactly _ element.Value) => ∀ a ∈ as.1, element.Fits a
  | option element, (a : Option element.Value) => ∀ b ∈ a, element.Fits b

/-- All lengths in an item can be written. -/
def Item.Fits (item : Item) : Prop := item.shape.Fits item.value

theorem readsBack_stdin {s : Stdin} (h : s.Fits) : Stdin.format.ReadsBack s :=
  have buffer := Format.ReadsBack.counted h.1 fun bs hbs => .bytes (h.2.1 bs hbs)
  have proofs := Format.ReadsBack.counted h.2.2 fun n _ => .uint32 n
  .map ((buffer.field "buffer").and (((.uint64 s.ptr : Format.ReadsBack _ _).field "ptr").and
    (proofs.field "proofs"))) rfl

theorem Shape.readsBack (s : Shape) {v : s.Value} (h : s.Fits v) : s.format.ReadsBack v := by
  induction s with
  | u8 => exact .uint8 v
  | u16 => exact .uint16 v
  | u32 => exact .uint32 v
  | u64 => exact .uint64 v
  | bytes => exact .bytes h
  | text => exact .text h
  | stdin => exact readsBack_stdin h
  | list element ih => exact .counted h.1 fun a ha => ih (h.2 a ha)
  | array n element ih => exact .exactly v fun a ha => ih (h a ha)
  | option element ih => exact .option fun a ha => ih (h a ha)

/-! ## Cut streams -/

/-- The first `n` bytes of a byte string, with `extra` behind them if those are all. -/
def keep (n : Nat) (bytes extra : Bytes) : Bytes :=
  bytes.take n ++ if bytes.length ≤ n then extra else []

theorem keep_append_of_le {n : Nat} {front : Bytes} (h : front.length ≤ n) (back extra : Bytes) :
    keep n (front ++ back) extra = front ++ keep (n - front.length) back extra := by
  have hlen : (front ++ back).length ≤ n ↔ back.length ≤ n - front.length := by
    rw [List.length_append]
    omega
  simp only [keep, hlen, List.take_append, List.take_of_length_le h, List.append_assoc]

theorem keep_append_of_lt {n : Nat} {front : Bytes} (h : n < front.length) (back extra : Bytes) :
    keep n (front ++ back) extra = front.take n := by
  have hlen : ¬ (front ++ back).length ≤ n := by
    rw [List.length_append]
    omega
  rw [keep, if_neg hlen, List.append_nil, List.take_append_of_le_length (Nat.le_of_lt h)]

theorem keep_of_le {n : Nat} {bytes : Bytes} (h : bytes.length ≤ n) (extra : Bytes) :
    keep n bytes extra = bytes ++ extra := by
  rw [keep, if_pos h, List.take_of_length_le h]

/-- How far reading gets in `data`, the first `n` bytes of a stream with `extra` behind them. -/
structure ReadsLeading (items : List Item) (n : Nat) (extra data : Bytes) (result : StreamResult) :
    Prop where
  length_le : result.read.length ≤ items.length
  /-- The items that are read are those that end within the first `n` bytes. -/
  read_iff : ∀ j < items.length,
    j < result.read.length ↔ (encodeItems (items.take (j + 1))).length ≤ n
  /-- Each is read as it was written, and exactly the bytes after it are left. -/
  read_eq : ∀ j < result.read.length, ∃ item rest, items[j]? = some item ∧
    result.read[j]? = some (item, rest) ∧ data = encodeItems (items.take (j + 1)) ++ rest
  failure_of_all : result.read.length = items.length → result.failure = none
  /-- The first item that is not read is short of bytes. -/
  failure_of_cut : result.read.length < items.length → ∃ path needed available,
    result.failure = some ⟨path, .insufficientBytes needed available⟩ ∧ available < needed
  /-- A whole stream is read back, and what is behind it is left. -/
  read_all : (encodeItems items).length ≤ n →
    data = encodeItems items ++ extra ∧ result.read.map Prod.fst = items ∧ result.failure = none

theorem Item.Fits.decode_encode_append {item : Item} (fits : item.Fits) (rest : Bytes) :
    item.shape.format.decode (item.encode ++ rest) = .ok (item.value, rest) :=
  (item.shape.readsBack fits).decode_encode_append rest

/-- An item that is all there is read, and reading goes on behind it. -/
theorem decodeItems_cons_of_le {item : Item} (fits : item.Fits) (items : List Item) {n : Nat}
    (h : item.encode.length ≤ n) (extra : Bytes) :
    decodeItems ((item :: items).map Item.shape) (keep n (encodeItems (item :: items)) extra) =
      let rest := keep (n - item.encode.length) (encodeItems items) extra
      let later := decodeItems (items.map Item.shape) rest
      ⟨(item, rest) :: later.read, later.failure⟩ := by
  rw [encodeItems, List.flatMap_cons, keep_append_of_le h, List.map_cons, decodeItems,
    fits.decode_encode_append]
  rfl

/-- Reading stops at an item that is cut. -/
theorem decodeItems_cons_of_lt {item : Item} (fits : item.Fits) (items : List Item) {n : Nat}
    (h : n < item.encode.length) (extra : Bytes) :
    ∃ path needed available, available < needed ∧
      decodeItems ((item :: items).map Item.shape) (keep n (encodeItems (item :: items)) extra) =
        ⟨[], some ⟨path, .insufficientBytes needed available⟩⟩ := by
  obtain ⟨path, needed, available, hlt, hread⟩ := (item.shape.readsBack fits).decode_take h
  refine ⟨path, needed, available, hlt, ?_⟩
  rw [encodeItems, List.flatMap_cons, keep_append_of_lt h, List.map_cons, decodeItems, Item.encode,
    hread]

/-- The items that end within the first `n` bytes of a stream are read, and the next one is short
of bytes. -/
theorem decodeItems_keep (items : List Item) (fits : ∀ item ∈ items, item.Fits) (n : Nat)
    (extra : Bytes) :
    ReadsLeading items n extra (keep n (encodeItems items) extra)
      (decodeItems (items.map Item.shape) (keep n (encodeItems items) extra)) := by
  induction items generalizing n with
  | nil =>
    exact ⟨Nat.le_refl _, by simp, by simp [decodeItems], fun _ => rfl, by simp [decodeItems],
      fun h => ⟨keep_of_le h extra, rfl, rfl⟩⟩
  | cons item items ih =>
    have hitem : item.Fits := fits item List.mem_cons_self
    have hsize (j : Nat) : (encodeItems ((item :: items).take (j + 1))).length =
        item.encode.length + (encodeItems (items.take j)).length := by
      simp [encodeItems]
    by_cases h : item.encode.length ≤ n
    · have later := ih (fun i hi => fits i (List.mem_cons_of_mem item hi)) (n - item.encode.length)
      have hdata : keep n (encodeItems (item :: items)) extra =
          item.encode ++ keep (n - item.encode.length) (encodeItems items) extra :=
        keep_append_of_le h _ _
      rw [decodeItems_cons_of_le hitem items h, hdata]
      refine ⟨Nat.succ_le_succ later.length_le, fun j hj => ?_, fun j hj => ?_, fun hall => ?_,
        fun hcut => ?_, fun hall => ?_⟩
      · rw [hsize]
        cases j with
        | zero => simpa [encodeItems] using h
        | succ j =>
          have := later.read_iff j (Nat.lt_of_succ_lt_succ hj)
          simp only [List.length_cons, Nat.add_lt_add_iff_right, this]
          omega
      · cases j with
        | zero => exact ⟨item, _, rfl, rfl, by simp [encodeItems]⟩
        | succ j =>
          obtain ⟨item', rest, hitem', hread, hrest⟩ := later.read_eq j (Nat.lt_of_succ_lt_succ hj)
          refine ⟨item', rest, hitem', hread, ?_⟩
          rw [hrest, List.take_succ_cons, encodeItems, encodeItems, List.flatMap_cons,
            List.append_assoc]
      · exact later.failure_of_all (Nat.succ.inj hall)
      · exact later.failure_of_cut (Nat.lt_of_succ_lt_succ hcut)
      · rw [encodeItems, List.flatMap_cons, List.length_append] at hall
        obtain ⟨hrest, hread, hfailure⟩ := later.read_all (Nat.le_sub_of_add_le' hall)
        refine ⟨?_, congrArg (item :: ·) hread, hfailure⟩
        rw [hrest, encodeItems, encodeItems, List.flatMap_cons, List.append_assoc]
    · have hlt : n < item.encode.length := Nat.lt_of_not_le h
      obtain ⟨path, needed, available, hbytes, hread⟩ :=
        decodeItems_cons_of_lt hitem items hlt extra
      rw [hread]
      refine ⟨Nat.zero_le _, fun j _ => ?_, fun j hj => absurd hj (Nat.not_lt_zero j),
        fun hall => by simp at hall, fun _ => ⟨path, needed, available, rfl, hbytes⟩,
        fun hall => ?_⟩
      · rw [hsize]
        simp only [List.length_nil, Nat.not_lt_zero, false_iff]
        omega
      · rw [encodeItems, List.flatMap_cons, List.length_append] at hall
        omega

/-- A list of numbers and an optional text. -/
def sampleItems : List Item :=
  [⟨.list .u16, ([1, 2] : List UInt16)⟩, ⟨.option .text, some "pck"⟩]

theorem decodeItems_keep_sample :
    (∀ item ∈ sampleItems, item.Fits) ∧
      ReadsLeading sampleItems 22 [9] (keep 22 (encodeItems sampleItems) [9])
        (decodeItems (sampleItems.map Item.shape) (keep 22 (encodeItems sampleItems) [9])) := by
  have fits : ∀ item ∈ sampleItems, item.Fits := by
    intro item hitem
    simp only [sampleItems, List.mem_cons, List.not_mem_nil, or_false] at hitem
    rcases hitem with rfl | rfl
    · exact ⟨by decide, fun _ _ => trivial⟩
    · rintro _ ⟨⟩
      show (Text.Utf8.encode "pck").length < 2 ^ 64
      decide
  exact ⟨fits, decodeItems_keep sampleItems fits 22 [9]⟩

end Codec

end QuoteProver
