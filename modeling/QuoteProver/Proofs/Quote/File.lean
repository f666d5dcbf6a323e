import QuoteProver.Command.Run
import QuoteProver.Proofs.Quote.Bounds
import QuoteProver.Proofs.Text.Hex
import QuoteProver.Proofs.Text.Trim

/-!
# The quote that a file holds

`HexFile` says how a quote is written as text.  Such a file is read as the quote whatever bytes it has
(`HexFile.ofFile_eq`).  A file that starts with a character which is neither white space nor a digit is
no such text and is read as it is (`ofFile_of_stray`), and the version of a quote is such a character.
`file_tells_quote` concludes that the program does the same for both forms of a quote.
-/

namespace QuoteProver

/-- The same task for the quote of another file. -/
def Command.Task.withQuote (path : String) : Command.Task → Command.Task
  | .parse _ => .parse path
  | .prove task => .prove { task with quote := path }

namespace Quote

open Text

/-! ## Texts -/

theorem bare_dropHexMark (text : List Char) : Bare text (dropHexMark (trim text)) :=
  bare_unmark text

/-- The text of a quote in digits: white space may stand around them, and `0x` in front of them. -/
inductive HexFile (quote : Bytes) : Bytes → Prop
  | mk {before mark digits after : List Char} : Blank before → mark = [] ∨ mark = ['0', 'x'] →
      Hex.Denotes digits quote → Blank after →
      HexFile quote ((before ++ (mark ++ digits) ++ after).flatMap Utf8.encodeChar)

/-- No digit is white space, and none is the letter of the mark. -/
theorem solid_of_denotes {digits : List Char} {bytes : Bytes} (h : Hex.Denotes digits bytes) :
    ∀ c ∈ digits, isBlank c = false ∧ c ≠ 'x' := by
  have all : (Hex.lowerDigits ++ Hex.upperDigits).all fun c => !isBlank c && c ≠ 'x' := by decide
  intro c hc
  obtain ⟨value, digit⟩ := h.digits.2 c hc
  have mem : c ∈ Hex.lowerDigits ++ Hex.upperDigits :=
    List.mem_append.2 (digit.imp List.mem_of_getElem? List.mem_of_getElem?)
  simpa using List.all_eq_true.1 all c mem

/-- The digits of a quote are what is left of its text. -/
theorem bare_of_digits {before mark digits after : List Char} {quote : Bytes} (front : Blank before)
    (marked : mark = [] ∨ mark = ['0', 'x']) (denotes : Hex.Denotes digits quote)
    (behind : Blank after) : Bare (before ++ (mark ++ digits) ++ after) digits := by
  have solid : ∀ c ∈ digits, isBlank c = false := fun c h => (solid_of_denotes denotes c h).1
  obtain rfl | rfl := marked
  · refine .unmarked front behind (trimmed_of_solid solid) ?_
    rintro rest rfl
    exact (solid_of_denotes denotes 'x' (by simp)).2 rfl
  · refine .marked front behind (trimmed_of_solid ?_)
    exact List.forall_mem_cons.2 ⟨rfl, List.forall_mem_cons.2 ⟨rfl, solid⟩⟩

/-- A text holds what its digits denote. -/
theorem ofFile_of_ok {text core : List Char} {quote : Bytes} (bare : Bare text core)
    (read : Hex.decode (String.ofList core) = .ok quote) :
    ofFile (text.flatMap Utf8.encodeChar) = quote := by
  have decoded : Utf8.decode (text.flatMap Utf8.encodeChar) = .ok text :=
    Utf8.decode_eq_ok_iff.2 rfl
  rw [bare.unique (bare_dropHexMark text)] at read
  rw [ofFile, decoded]
  dsimp only
  rw [read]

/-- A text that is not hexadecimal holds itself. -/
theorem ofFile_of_error {text core : List Char} {fault : Hex.Fault} (bare : Bare text core)
    (read : Hex.decode (String.ofList core) = .error fault) :
    ofFile (text.flatMap Utf8.encodeChar) = text.flatMap Utf8.encodeChar := by
  have decoded : Utf8.decode (text.flatMap Utf8.encodeChar) = .ok text :=
    Utf8.decode_eq_ok_iff.2 rfl
  rw [bare.unique (bare_dropHexMark text)] at read
  rw [ofFile, decoded]
  dsimp only
  rw [read]

theorem HexFile.ofFile_eq {quote contents : Bytes} (h : HexFile quote contents) :
    ofFile contents = quote := by
  obtain @⟨before, mark, digits, after, front, marked, denotes, behind⟩ := h
  have decoded : Hex.decode (String.ofList digits) = .ok quote := by
    rwa [Hex.decode_eq_ok_iff, String.toList_ofList]
  exact ofFile_of_ok (bare_of_digits front marked denotes behind) decoded

/-! ## Bytes -/

/-- A text that starts with a character which is neither white space nor a digit does not stand for
any bytes. -/
theorem ofFile_of_stray {b : UInt8} {rest : Bytes} (ascii : b.toNat < 0x80)
    (solid : isBlank (Hex.asChar b) = false) (stray : ¬ Hex.IsDigitByte b) :
    ofFile (b :: rest) = b :: rest := by
  cases decoded : Utf8.decode (b :: rest) with
  | error fault => rw [ofFile, decoded]
  | ok text =>
    have spelt : b :: rest = text.flatMap Utf8.encodeChar := Utf8.decode_eq_ok_iff.1 decoded
    cases text with
    | nil => cases spelt
    | cons c text =>
      -- The first character is that of the first byte, so it is what is left of the text starts with.
      obtain ⟨b', tail, first, read⟩ := Utf8.head_encodeChar c (text.flatMap Utf8.encodeChar)
      rw [List.flatMap_cons, first, List.cons_append] at spelt
      obtain ⟨rfl, rfl⟩ := List.cons.inj spelt
      rw [Utf8.head_of_one _ ascii] at read
      obtain rfl : Hex.asChar b = c := (Utf8.Head.char.inj read).1
      obtain ⟨tail', trimmed⟩ := exists_trim_cons solid text
      have bare : Bare (Hex.asChar b :: text) (Hex.asChar b :: tail') := by
        refine bare_of_trim trimmed fun rest marked => stray ⟨0, ?_⟩
        rw [(List.cons.inj marked).1]
        decide
      cases read : Hex.decode (String.ofList (Hex.asChar b :: tail')) with
      | error fault =>
        have held := ofFile_of_error bare read
        rwa [List.flatMap_cons, first, List.cons_append] at held
      | ok quote =>
        have denotes := Hex.decode_eq_ok_iff.1 read
        rw [String.toList_ofList] at denotes
        cases denotes with
        | cons high => exact absurd ⟨_, high⟩ stray

/-- The byte of a version is a control character. -/
theorem ofFile_of_version {quote : Bytes} {version : Nat} (stands : Stands quote 0 2 version)
    (known : version = 3 ∨ version = 4) : ofFile quote = quote := by
  have control : ∀ b ∈ [(3 : UInt8), 4], b.toNat < 0x80 ∧ isBlank (Hex.asChar b) = false ∧
      Hex.digitValue? b = none := by decide +kernel
  obtain ⟨front, back, rfl, offset, -⟩ := stands
  obtain rfl := List.eq_nil_of_length_eq_zero offset
  have mem : UInt8.ofNat version ∈ [(3 : UInt8), 4] := by
    obtain rfl | rfl := known <;> simp
  obtain ⟨ascii, solid, stray⟩ := control _ mem
  refine ofFile_of_stray ascii solid ?_
  rintro ⟨value, digit⟩
  rw [Hex.digitValue?_eq_some_iff.2 digit] at stray
  cases stray

/-- An acceptable quote is not taken for text. -/
theorem Encloses.ofFile_eq {quote : Bytes} {q : Quote} (h : Encloses quote q) :
    ofFile quote = quote := by
  obtain ⟨layout, data, chainOffset⟩ := q
  obtain ⟨offset, size, header, -⟩ := h
  cases header with
  | v3 _ version => exact ofFile_of_version version (.inl rfl)
  | v4Sgx _ version _ => exact ofFile_of_version version (.inr rfl)
  | v4Tdx _ version _ => exact ofFile_of_version version (.inr rfl)

/-! ## Runs -/

section Runs

open Command

variable {s : Surroundings} {path path' : String}

theorem prepare_congr (task : ProveTask) (same : readQuote s path = readQuote s path') :
    prepare s { task with quote := path } = prepare s { task with quote := path' } := by
  unfold prepare
  dsimp only
  rw [same]

/-- What a task comes to depends on the quote in the file, and not on the file. -/
theorem perform_congr (task : Task) (same : readQuote s path = readQuote s path') :
    perform s (task.withQuote path) = perform s (task.withQuote path') := by
  cases task with
  | parse _ => simp only [Task.withQuote, perform, Command.parse, summaryOf, same]
  | prove task => simp only [Task.withQuote, perform, prove, prepare_congr task same]

end Runs

/-- A file with the digits of a quote holds the quote, and so does the file with an acceptable quote
itself, which is never taken for text.  Whichever of the two the program is given, it does the same. -/
theorem file_tells_quote (quote : Bytes) :
    (∀ contents, HexFile quote contents → ofFile contents = quote) ∧
    (∀ q, Quote.parse quote = .ok q → ofFile quote = quote) ∧
    ∀ q, Quote.parse quote = .ok q → ∀ (s : Command.Surroundings) (raw hex : String) contents,
      s.contents raw = some quote → s.contents hex = some contents → HexFile quote contents →
      ∀ threshold (task : Command.Task) arguments arguments',
        Command.Arguments.ofList s.environment arguments = .ok ⟨threshold, task.withQuote raw⟩ →
        Command.Arguments.ofList s.environment arguments' = .ok ⟨threshold, task.withQuote hex⟩ →
        Command.run s arguments = Command.run s arguments' := by
  refine ⟨fun contents written => written.ofFile_eq,
    fun q accepted => (parse_eq_ok_iff.1 accepted).ofFile_eq,
    fun q accepted s raw hex contents found found' written threshold task arguments arguments' asked
      asked' => ?_⟩
  have same : Command.readQuote s raw = Command.readQuote s hex := by
    rw [Command.readQuote, Command.readQuote, found, found']
    dsimp only
    rw [(parse_eq_ok_iff.1 accepted).ofFile_eq, written.ofFile_eq]
  rw [Command.run, Command.run, asked, asked']
  dsimp only
  rw [perform_congr task same]

namespace Sample

/-- The digits of the short quote, where the letter is a large one. -/
def digits : List Char :=
  "03".toList ++ List.replicate 2022 '0' ++ "0100".toList ++ List.replicate 14 '0' ++ "2D".toList

def hexFile : Bytes := ([' '] ++ (['0', 'x'] ++ digits) ++ ['\n']).flatMap Utf8.encodeChar

/-- Surroundings in which there are both forms of the quote. -/
def surroundings : Command.Surroundings where
  contents path := [("quote.bin", shortQuote), ("quote.hex", hexFile)].lookup path
  isWritable _ := false
  environment := []

end Sample

theorem file_tells_quote_short :
    Sample.hexFile ≠ shortQuote ∧ ofFile Sample.hexFile = shortQuote ∧ ofFile shortQuote = shortQuote ∧
      Command.run Sample.surroundings ["parse", "--quote", "quote.bin"] =
        Command.run Sample.surroundings ["parse", "--quote", "quote.hex"] := by
  have accepted : Quote.parse shortQuote = .ok ⟨.v3, shortQuote, 1021⟩ := by decide +kernel
  have read : Hex.decodePairs 0 (Sample.digits.map fun c => UInt8.ofNat c.toNat) = .ok shortQuote := by
    decide +kernel
  have ascii : (Sample.digits.map fun c => UInt8.ofNat c.toNat).map Hex.asChar = Sample.digits := by
    decide +kernel
  have denotes := (Hex.decodePairs_eq_ok_iff (by decide +kernel)).1 read
  rw [ascii] at denotes
  have written : HexFile shortQuote Sample.hexFile :=
    .mk (by simp [Blank, isBlank]) (.inr rfl) denotes (by simp [Blank, isBlank])
  obtain ⟨ofHex, ofRaw, same⟩ := file_tells_quote shortQuote
  refine ⟨by decide +kernel, ofHex _ written, ofRaw _ accepted, ?_⟩
  exact same _ accepted Sample.surroundings "quote.bin" "quote.hex" _ rfl rfl written (.atLeast .warn)
    (.parse "") _ _ (by decide +kernel) (by decide +kernel)

end Quote

end QuoteProver
