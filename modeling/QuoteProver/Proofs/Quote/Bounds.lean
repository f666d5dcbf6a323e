import QuoteProver.Proofs.Bytes
import QuoteProver.Proofs.Except
import QuoteProver.Quote.Basic

/-!
# Where the certificates of a quote begin

A quote is accepted if its header is known and its certification data begins inside of it
(`Encloses`), and else refused for what is first found wrong (`BoundsFault`); both are told by the
numbers that stand in the quote, without the steps of the reader.  `parse?` is `Quote.parse` with
reads that have no result beyond the end, and has the same result everywhere.
`parse_keeps_bounds` puts these together.
-/

namespace QuoteProver.Quote

/-! ## Numbers in a byte string -/

/-- The little-endian number `n` stands in the `width` bytes from an offset on. -/
def Stands (data : Bytes) (offset width n : Nat) : Prop :=
  ∃ front back, data = front ++ (Bytes.littleEndian width n ++ back) ∧ front.length = offset ∧
    n < 256 ^ width

theorem stands_iff {data : Bytes} {offset width n : Nat} :
    Stands data offset width n ↔
      offset + width ≤ data.length ∧ Layout.numberAt data offset width = n := by
  constructor
  · rintro ⟨front, back, rfl, rfl, fits⟩
    refine ⟨by simp, ?_⟩
    rw [Layout.numberAt, List.drop_left, List.take_left' (Bytes.length_littleEndian width n),
      Bytes.natOfLittleEndian_littleEndian, Nat.mod_eq_of_lt fits]
  · rintro ⟨inside, rfl⟩
    have width_eq : ((data.drop offset).take width).length = width := by
      simp only [List.length_take, List.length_drop]
      omega
    have written := Bytes.littleEndian_natOfLittleEndian ((data.drop offset).take width)
    have fits := Bytes.natOfLittleEndian_lt ((data.drop offset).take width)
    rw [width_eq] at written fits
    refine ⟨data.take offset, (data.drop offset).drop width, ?_, ?_, fits⟩
    · rw [Layout.numberAt, written, List.take_append_drop, List.take_append_drop]
    · simp only [List.length_take]
      omega

theorem Stands.append {data : Bytes} {offset width n : Nat} (h : Stands data offset width n)
    (suffix : Bytes) : Stands (data ++ suffix) offset width n := by
  obtain ⟨front, back, rfl, offset_eq, fits⟩ := h
  exact ⟨front, back ++ suffix, by simp only [List.append_assoc], offset_eq, fits⟩

/-! ## Headers -/

/-- The header of a quote tells its layout, and so the offset of the size of the authentication
data. -/
inductive Header (data : Bytes) : Layout → Nat → Prop
  | v3 : 8 ≤ data.length → Stands data 0 2 3 → Header data .v3 1012
  | v4Sgx : 8 ≤ data.length → Stands data 0 2 4 → Stands data 4 4 0 → Header data .v4Sgx 1018
  | v4Tdx : 8 ≤ data.length → Stands data 0 2 4 → Stands data 4 4 0x81 → Header data .v4Tdx 1218

/-- What is wrong with a header: its length is looked at first, then the version, and the type only
where the version has one. -/
inductive HeaderFault (data : Bytes) : Failure → Prop
  | short : data.length < 8 → HeaderFault data (.truncated 8 data.length)
  | version {version : Nat} : 8 ≤ data.length → Stands data 0 2 version → version ≠ 3 →
      version ≠ 4 → HeaderFault data (.version version)
  | teeType {type : Nat} : 8 ≤ data.length → Stands data 0 2 4 → Stands data 4 4 type → type ≠ 0 →
      type ≠ 0x81 → HeaderFault data (.teeType type)

theorem Header.long {data : Bytes} {layout : Layout} {offset : Nat} (h : Header data layout offset) :
    8 ≤ data.length := by
  cases h <;> assumption

theorem Header.append {data : Bytes} {layout : Layout} {offset : Nat} (h : Header data layout offset)
    (suffix : Bytes) : Header (data ++ suffix) layout offset := by
  have long : 8 ≤ (data ++ suffix).length := by
    rw [List.length_append]
    exact Nat.le_add_right_of_le h.long
  cases h with
  | v3 _ version => exact .v3 long (version.append suffix)
  | v4Sgx _ version type => exact .v4Sgx long (version.append suffix) (type.append suffix)
  | v4Tdx _ version type => exact .v4Tdx long (version.append suffix) (type.append suffix)

theorem header_or_fault (data : Bytes) :
    (∃ layout offset, Header data layout offset) ∨ ∃ failure, HeaderFault data failure := by
  by_cases short : data.length < 8
  · exact .inr ⟨_, .short short⟩
  have long : 8 ≤ data.length := Nat.not_lt.1 short
  have version : Stands data 0 2 (Layout.numberAt data 0 2) := stands_iff.2 ⟨by omega, rfl⟩
  have type : Stands data 4 4 (Layout.numberAt data 4 4) := stands_iff.2 ⟨by omega, rfl⟩
  by_cases h3 : Layout.numberAt data 0 2 = 3
  · exact .inl ⟨_, _, .v3 long (h3 ▸ version)⟩
  by_cases h4 : Layout.numberAt data 0 2 = 4
  · rw [h4] at version
    by_cases sgx : Layout.numberAt data 4 4 = 0
    · exact .inl ⟨_, _, .v4Sgx long version (sgx ▸ type)⟩
    by_cases tdx : Layout.numberAt data 4 4 = 0x81
    · exact .inl ⟨_, _, .v4Tdx long version (tdx ▸ type)⟩
    · exact .inr ⟨_, .teeType long version type sgx tdx⟩
  · exact .inr ⟨_, .version long version h3 h4⟩

theorem detect_of_long {data : Bytes} (long : 8 ≤ data.length) :
    Layout.detect data =
      if Layout.numberAt data 0 2 = 3 then .ok .v3
      else if Layout.numberAt data 0 2 = 4 then
        if Layout.numberAt data 4 4 = 0 then .ok .v4Sgx
        else if Layout.numberAt data 4 4 = 0x81 then .ok .v4Tdx
        else .error (.teeType (Layout.numberAt data 4 4))
      else .error (.version (Layout.numberAt data 0 2)) :=
  if_neg (Nat.not_lt.2 long)

theorem Header.detect {data : Bytes} {layout : Layout} {offset : Nat} (h : Header data layout offset) :
    Layout.detect data = .ok layout ∧ layout.authDataSizeOffset = offset := by
  refine ⟨?_, by cases h <;> rfl⟩
  rw [detect_of_long h.long]
  cases h with
  | v3 _ version => simp [(stands_iff.1 version).2]
  | v4Sgx _ version type => simp [(stands_iff.1 version).2, (stands_iff.1 type).2]
  | v4Tdx _ version type => simp [(stands_iff.1 version).2, (stands_iff.1 type).2]

theorem HeaderFault.detect {data : Bytes} {failure : Failure} (h : HeaderFault data failure) :
    Layout.detect data = .error failure := by
  cases h with
  | short short => exact if_pos short
  | version long version h3 h4 =>
    rw [detect_of_long long]
    simp [(stands_iff.1 version).2, h3, h4]
  | teeType long version type sgx tdx =>
    rw [detect_of_long long]
    simp [(stands_iff.1 version).2, (stands_iff.1 type).2, sgx, tdx]

/-! ## Quotes -/

/-- The byte string holds a quote with all of its authentication data: `size` bytes and the header of
the certification data, six bytes, stand behind the size. -/
def Encloses (data : Bytes) (q : Quote) : Prop :=
  ∃ offset size, Header data q.layout offset ∧ Stands data offset 2 size ∧
    offset + 8 + size ≤ data.length ∧ q.chainOffset = offset + 8 + size ∧ q.data = data

theorem Encloses.data_eq {data : Bytes} {q : Quote} (h : Encloses data q) : q.data = data := by
  obtain ⟨_, _, -, -, -, -, same⟩ := h
  exact same

theorem Encloses.chainOffset_le {data : Bytes} {q : Quote} (h : Encloses data q) :
    q.chainOffset ≤ data.length := by
  obtain ⟨offset, size, -, -, inside, begins, -⟩ := h
  rwa [begins]

/-- What is wrong with a quote, in the order in which it is looked at. -/
inductive BoundsFault (data : Bytes) : Failure → Prop
  | header {failure : Failure} : HeaderFault data failure → BoundsFault data failure
  | size {layout : Layout} {offset : Nat} : Header data layout offset → data.length < offset + 2 →
      BoundsFault data (.truncated (offset + 2) data.length)
  | chain {layout : Layout} {offset size : Nat} : Header data layout offset →
      Stands data offset 2 size → data.length < offset + 8 + size →
      BoundsFault data (.truncated (offset + 8 + size) data.length)

theorem encloses_or_fault (data : Bytes) :
    (∃ q, Encloses data q) ∨ ∃ failure, BoundsFault data failure := by
  obtain ⟨layout, offset, header⟩ | ⟨failure, fault⟩ := header_or_fault data
  · by_cases size : data.length < offset + 2
    · exact .inr ⟨_, .size header size⟩
    have stands : Stands data offset 2 (Layout.numberAt data offset 2) :=
      stands_iff.2 ⟨Nat.not_lt.1 size, rfl⟩
    by_cases chain : data.length < offset + 8 + Layout.numberAt data offset 2
    · exact .inr ⟨_, .chain header stands chain⟩
    · exact .inl ⟨⟨layout, data, _⟩, offset, _, header, stands, Nat.not_lt.1 chain, rfl, rfl⟩
  · exact .inr ⟨failure, .header fault⟩

theorem parse_of_header {data : Bytes} {layout : Layout} {offset : Nat}
    (header : Header data layout offset) :
    Quote.parse data =
      if data.length < offset + 2 then .error (.truncated (offset + 2) data.length)
      else if data.length < offset + 8 + Layout.numberAt data offset 2 then
        .error (.truncated (offset + 8 + Layout.numberAt data offset 2) data.length)
      else .ok ⟨layout, data, offset + 8 + Layout.numberAt data offset 2⟩ := by
  obtain ⟨detected, rfl⟩ := header.detect
  have stop_eq : layout.authDataSizeOffset + 2 +
      Layout.numberAt data layout.authDataSizeOffset 2 + chainHeaderSize =
        layout.authDataSizeOffset + 8 + Layout.numberAt data layout.authDataSizeOffset 2 := by
    rw [chainHeaderSize]
    omega
  rw [Quote.parse, detected]
  dsimp only [bind, Except.bind]
  rw [stop_eq]
  split_ifs <;> rfl

theorem Encloses.parse {data : Bytes} {q : Quote} (h : Encloses data q) :
    Quote.parse data = .ok q := by
  obtain ⟨layout, data', chainOffset⟩ := q
  obtain ⟨offset, size, header, stands, inside, begins, same⟩ := h
  obtain ⟨held, rfl⟩ := stands_iff.1 stands
  dsimp only at header begins same
  subst same begins
  rw [parse_of_header header, if_neg (Nat.not_lt.2 held), if_neg (Nat.not_lt.2 inside)]

theorem BoundsFault.parse {data : Bytes} {failure : Failure} (h : BoundsFault data failure) :
    Quote.parse data = .error failure := by
  cases h with
  | header fault => exact bind_eq_error_iff.2 (.inl fault.detect)
  | size header short =>
    rw [parse_of_header header, if_pos short]
  | chain header stands short =>
    obtain ⟨held, rfl⟩ := stands_iff.1 stands
    rw [parse_of_header header, if_neg (Nat.not_lt.2 held), if_pos short]

theorem parse_eq_ok_iff {data : Bytes} {q : Quote} : Quote.parse data = .ok q ↔ Encloses data q := by
  refine ⟨fun h => ?_, Encloses.parse⟩
  obtain ⟨q', encloses⟩ | ⟨failure, fault⟩ := encloses_or_fault data
  · cases h.symm.trans encloses.parse
    exact encloses
  · cases h.symm.trans fault.parse

theorem parse_eq_error_iff {data : Bytes} {failure : Failure} :
    Quote.parse data = .error failure ↔ BoundsFault data failure := by
  refine ⟨fun h => ?_, BoundsFault.parse⟩
  obtain ⟨q', encloses⟩ | ⟨failure', fault⟩ := encloses_or_fault data
  · cases h.symm.trans encloses.parse
  · cases h.symm.trans fault.parse
    exact fault

/-- What follows a quote belongs to its certification data. -/
theorem Encloses.append {data : Bytes} {q : Quote} (h : Encloses data q) (suffix : Bytes) :
    Encloses (data ++ suffix) { q with data := data ++ suffix } := by
  obtain ⟨offset, size, header, stands, inside, begins, -⟩ := h
  refine ⟨offset, size, header.append suffix, stands.append suffix, ?_, begins, rfl⟩
  rw [List.length_append]
  exact Nat.le_add_right_of_le inside

theorem BoundsFault.truncated {data : Bytes} {needed available : Nat}
    (h : BoundsFault data (.truncated needed available)) :
    available = data.length ∧ data.length < needed := by
  cases h with
  | header fault =>
    cases fault with
    | short short => exact ⟨rfl, short⟩
  | size _ short => exact ⟨rfl, short⟩
  | chain _ _ short => exact ⟨rfl, short⟩

/-! ## Reads that stay inside -/

/-- The bytes from one offset up to another one, if there are that many. -/
def slice? (data : Bytes) (start stop : Nat) : Option Bytes :=
  if start ≤ stop ∧ stop ≤ data.length then some ((data.drop start).take (stop - start)) else none

/-- The little-endian number of `width` bytes at an offset, if there are that many. -/
def numberAt? (data : Bytes) (offset width : Nat) : Option Nat :=
  (slice? data offset (offset + width)).map Bytes.natOfLittleEndian

/-- `Layout.detect` from the bytes of the header alone, without a result where it reads beyond them. -/
def detect? (data : Bytes) : Option (Except Failure Layout) :=
  match slice? data 0 Layout.headerSize with
  | none => some (.error (.truncated Layout.headerSize data.length))
  | some header => do
    let version ← numberAt? header 0 2
    let type ← numberAt? header 4 4
    return if version = 3 then .ok .v3
      else if version = 4 then
        if type = Layout.sgxType then .ok .v4Sgx
        else if type = Layout.tdxType then .ok .v4Tdx
        else .error (.teeType type)
      else .error (.version version)

/-- `Quote.parse` without a result where it reads beyond the bytes it has looked up. -/
def parse? (data : Bytes) : Option (Except Failure Quote) := do
  match ← detect? data with
  | .error failure => some (.error failure)
  | .ok layout =>
    let sizeEnd := layout.authDataSizeOffset + 2
    match slice? data layout.authDataSizeOffset sizeEnd with
    | none => some (.error (.truncated sizeEnd data.length))
    | some field => do
      let chainOffset := sizeEnd + (← numberAt? field 0 2) + chainHeaderSize
      if data.length < chainOffset then some (.error (.truncated chainOffset data.length))
      else some (.ok { layout, data, chainOffset })

/-- `Quote.chainData` without a result where it reads beyond the end. -/
def chainData? (q : Quote) : Option Bytes := slice? q.data q.chainOffset q.data.length

theorem slice?_of_le {data : Bytes} {start stop : Nat} (order : start ≤ stop)
    (inside : stop ≤ data.length) : slice? data start stop = some ((data.drop start).take (stop - start)) :=
  if_pos ⟨order, inside⟩

theorem slice?_eq_none {data : Bytes} {start stop : Nat} (beyond : data.length < stop) :
    slice? data start stop = none :=
  if_neg fun h => Nat.not_le.2 beyond h.2

/-- A number in a slice stands in the byte string itself. -/
theorem numberAt?_slice {data : Bytes} {start count : Nat} (offset width : Nat)
    (inside : start + count ≤ data.length) (held : offset + width ≤ count) :
    numberAt? ((data.drop start).take count) offset width =
      some (Layout.numberAt data (start + offset) width) := by
  have length_eq : ((data.drop start).take count).length = count := by
    simp only [List.length_take, List.length_drop]
    omega
  have part : (((data.drop start).take count).drop offset).take width =
      (data.drop (start + offset)).take width := by
    rw [List.drop_take, List.take_take, List.drop_drop, Nat.min_eq_left (by omega)]
  rw [numberAt?, slice?_of_le (Nat.le_add_right offset width) (by omega), Nat.add_sub_cancel_left,
    Option.map_some, part, Layout.numberAt]

theorem detect?_eq (data : Bytes) : detect? data = some (Layout.detect data) := by
  by_cases short : data.length < Layout.headerSize
  · rw [detect?, slice?_eq_none short, Layout.detect, if_pos short]
  have long : 0 + Layout.headerSize ≤ data.length := by omega
  have version := numberAt?_slice 0 2 long (by decide)
  have type := numberAt?_slice 4 4 long (by decide)
  rw [detect?, slice?_of_le (Nat.zero_le _) (Nat.not_lt.1 short), Layout.detect, if_neg short]
  dsimp only
  rw [Nat.sub_zero, version, type]
  rfl

theorem parse?_eq (data : Bytes) : parse? data = some (Quote.parse data) := by
  rw [parse?, detect?_eq, Quote.parse]
  cases Layout.detect data with
  | error failure => rfl
  | ok layout =>
    dsimp only [bind, Except.bind, Option.bind]
    by_cases short : data.length < layout.authDataSizeOffset + 2
    · rw [slice?_eq_none short, if_pos short]
      rfl
    · have inside := Nat.not_lt.1 short
      have size := numberAt?_slice 0 2 inside (Nat.le_refl _)
      rw [slice?_of_le (Nat.le_add_right _ 2) inside, if_neg short, Nat.add_sub_cancel_left]
      dsimp only
      rw [size]
      dsimp only [Nat.add_zero]
      split_ifs <;> rfl

theorem chainData?_eq {data : Bytes} {q : Quote} (h : Encloses data q) :
    chainData? q = some q.chainData := by
  have held : q.chainOffset ≤ q.data.length := h.data_eq ▸ h.chainOffset_le
  rw [chainData?, slice?_of_le held (Nat.le_refl _), chainData, ← List.length_drop, List.take_length]

/-! ## The bounds of a quote -/

theorem Encloses.chainData_append {data : Bytes} {q : Quote} (h : Encloses data q) (suffix : Bytes) :
    chainData { q with data := data ++ suffix } = q.chainData ++ suffix := by
  rw [chainData, chainData, h.data_eq]
  exact List.drop_append_of_le_length h.chainOffset_le

theorem Encloses.split {data : Bytes} {q : Quote} (h : Encloses data q) :
    ∃ front, data = front ++ q.chainData ∧ front.length = q.chainOffset := by
  refine ⟨data.take q.chainOffset, ?_, List.length_take_of_le h.chainOffset_le⟩
  rw [chainData, h.data_eq, List.take_append_drop]

/-- The quotes that are accepted are those that hold all of their authentication data.  Their
certificates are everything behind it, and bytes added at the end are only added to these.  A quote
that is too short is told how many bytes it has and that it needs more, and no byte is read beyond
the end. -/
theorem parse_keeps_bounds (data : Bytes) :
    (∀ q, Quote.parse data = .ok q ↔ Encloses data q) ∧
    (∀ failure, Quote.parse data = .error failure ↔ BoundsFault data failure) ∧
    (∀ q, Quote.parse data = .ok q →
      (∃ front, data = front ++ q.chainData ∧ front.length = q.chainOffset) ∧
      ∀ suffix, ∃ q', Quote.parse (data ++ suffix) = .ok q' ∧ q'.layout = q.layout ∧
        q'.chainOffset = q.chainOffset ∧ q'.chainData = q.chainData ++ suffix) ∧
    (∀ needed available, Quote.parse data = .error (.truncated needed available) →
      available = data.length ∧ data.length < needed) ∧
    parse? data = some (Quote.parse data) ∧
    ∀ q, Quote.parse data = .ok q → chainData? q = some q.chainData := by
  refine ⟨fun q => parse_eq_ok_iff, fun failure => parse_eq_error_iff, fun q accepted => ?_,
    fun needed available refused => (parse_eq_error_iff.1 refused).truncated, parse?_eq data,
    fun q accepted => chainData?_eq (parse_eq_ok_iff.1 accepted)⟩
  have encloses := parse_eq_ok_iff.1 accepted
  refine ⟨encloses.split, fun suffix => ⟨{ q with data := data ++ suffix }, ?_, rfl, rfl, ?_⟩⟩
  · exact parse_eq_ok_iff.2 (encloses.append suffix)
  · exact encloses.chainData_append suffix

/-- A quote of version 3 with one byte of authentication data and one byte behind it. -/
def shortQuote : Bytes :=
  [3] ++ List.replicate 1011 0 ++ [1, 0] ++ List.replicate 7 0 ++ [0x2D]

theorem parse_keeps_bounds_short :
    Quote.parse shortQuote = .ok ⟨.v3, shortQuote, 1021⟩ ∧
    Quote.parse (shortQuote.take 1020) = .error (.truncated 1021 1020) ∧
    (∃ front, shortQuote = front ++ [0x2D] ∧ front.length = 1021) ∧
    ∃ q', Quote.parse (shortQuote ++ [0x2E]) = .ok q' ∧ q'.chainData = [0x2D, 0x2E] := by
  have accepted : Quote.parse shortQuote = .ok ⟨.v3, shortQuote, 1021⟩ := by decide +kernel
  have refused : Quote.parse (shortQuote.take 1020) = .error (.truncated 1021 1020) := by
    decide +kernel
  have tail : chainData ⟨.v3, shortQuote, 1021⟩ = [0x2D] := by decide +kernel
  obtain ⟨front, grows⟩ := (parse_keeps_bounds shortQuote).2.2.1 _ accepted
  rw [tail] at front grows
  obtain ⟨q', parsed, -, -, chain⟩ := grows [0x2E]
  exact ⟨accepted, refused, front, q', parsed, chain⟩

end QuoteProver.Quote
