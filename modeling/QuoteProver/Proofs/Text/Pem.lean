import Mathlib.Data.List.Chain
import QuoteProver.Proofs.Except
import QuoteProver.Proofs.Text.Base64
import QuoteProver.Proofs.Text.Utf8
import QuoteProver.Text.Pem

/-!
# Certificates among other bytes

`written` puts certificates into PEM blocks, with any line width and either line end, and other bytes
without a hyphen behind each of them.  The scanner skips these bytes, however they look otherwise,
and every block is found with just its own text (`capture_block`), so that `parseMany` gives back what
was written (`parseMany_written`).
-/

namespace QuoteProver.Text.Pem

/-! ## Writing -/

/-- The bytes of ASCII characters. -/
def ascii (chars : List Char) : Bytes := chars.map fun c => UInt8.ofNat c.toNat

inductive LineEnd where
  | lf
  | crlf
  deriving DecidableEq

def LineEnd.chars : LineEnd → List Char
  | lf => ['\n']
  | crlf => ['\r', '\n']

/-- The lines of a text: `width` characters in each but the last, and one at least. -/
def wrap (width : Nat) : List Char → List (List Char)
  | [] => []
  | c :: chars => (c :: chars.take (width - 1)) :: wrap width (chars.drop (width - 1))
termination_by chars => chars.length
decreasing_by
  rw [List.length_drop, List.length_cons]
  omega

/-- The text that lines make up. -/
def joined (e : LineEnd) (lines : List (List Char)) : List Char := lines.flatMap (· ++ e.chars)

/-- How the text of a block is broken into lines. -/
structure Wrapping where
  width : Nat
  lineEnd : LineEnd

namespace Wrapping

variable (w : Wrapping)

/-- The Base64 text between the two marked lines. -/
def payload (contents : Bytes) : List Char :=
  joined w.lineEnd (wrap w.width (Base64.encodeChars contents))

/-- A certificate in its block. -/
def block (contents : Bytes) : Bytes :=
  Bytes.ofAscii "-----BEGIN CERTIFICATE-----" ++ ascii w.lineEnd.chars ++
    ascii (w.payload contents) ++ Bytes.ofAscii "-----END CERTIFICATE-----"

end Wrapping

/-- A certificate with the layout of its block and the bytes behind the block. -/
structure Part where
  contents : Bytes
  wrapping : Wrapping
  after : Bytes

/-- Certificates in their blocks one after the other. -/
def written (parts : List Part) : Bytes :=
  parts.flatMap fun p => p.wrapping.block p.contents ++ p.after

/-! ## Searching for markers -/

theorem seek_skip {m : UInt8} {ms front : Bytes} (clean : m ∉ front) (rest : Bytes) :
    seek (m :: ms) (m :: ms) (front ++ rest) = seek (m :: ms) (m :: ms) rest := by
  induction front with
  | nil => rfl
  | cons b front ih =>
    obtain ⟨differs, clean⟩ := not_or.1 (List.mem_cons.not.1 clean)
    rw [List.cons_append, seek, if_neg (Ne.symm differs), ih clean]

theorem seek_pending {marker pending : Bytes} (h : pending ≠ []) (rest : Bytes) :
    seek marker pending (pending ++ rest) = some rest := by
  induction pending with
  | nil => exact absurd rfl h
  | cons m ms ih =>
    rw [List.cons_append, seek, if_pos rfl]
    cases ms with
    | nil => rfl
    | cons m' ms => exact ih (List.cons_ne_nil _ _)

/-- The search stops at the first marker, if the bytes in front of it do not hold its first byte. -/
theorem cutAt_append {m : UInt8} {marker front : Bytes} (hm : marker.head? = some m)
    (clean : m ∉ front) (rest : Bytes) :
    cutAt marker (front ++ (marker ++ rest)) = some (front, rest) := by
  obtain ⟨ms, rfl⟩ := List.head?_eq_some_iff.1 hm
  have lengths : (front ++ (m :: ms ++ rest)).length - rest.length - (m :: ms).length =
      front.length := by
    simp only [List.length_append]
    omega
  rw [cutAt, seek_skip clean, seek_pending (List.cons_ne_nil m ms), Option.map_some, lengths,
    List.take_left]

/-- What is found is there: `seen` are the bytes of the marker that came before the others. -/
theorem infix_of_seek {marker pending data rest : Bytes} (seen : Bytes) (hm : seen ++ pending = marker)
    (found : seek marker pending data = some rest) : marker <:+: seen ++ data := by
  induction data generalizing pending seen with
  | nil => simp [seek] at found
  | cons b data ih =>
    have later (h : marker <:+: data) : marker <:+: seen ++ b :: data :=
      h.trans ⟨seen ++ [b], [], by simp⟩
    cases pending with
    | nil => exact ⟨[], b :: data, by rw [← hm]; simp⟩
    | cons m ms =>
      rw [seek] at found
      split at found
      · rename_i same
        split at found
        · rename_i last
          rw [List.isEmpty_iff.1 last] at hm
          exact ⟨[], data, by rw [← hm, same]; simp⟩
        · have := ih (seen ++ [m]) (by rw [← hm]; simp) found
          rwa [List.append_assoc, List.singleton_append, ← same] at this
      · exact later (ih [] rfl found)

theorem cutAt_eq_none {marker data : Bytes} (h : ¬ marker <:+: data) : cutAt marker data = none := by
  rw [cutAt, Option.map_eq_none_iff, Option.eq_none_iff_forall_ne_some]
  exact fun rest found => h (infix_of_seek [] rfl found)

/-! ## The text of a block -/

theorem wrap_ne_nil {width : Nat} {chars : List Char} : ∀ line ∈ wrap width chars, line ≠ [] := by
  fun_induction wrap width chars with
  | case1 => simp
  | case2 c chars ih => exact List.forall_mem_cons.2 ⟨List.cons_ne_nil _ _, ih⟩

theorem flatten_wrap (width : Nat) (chars : List Char) : (wrap width chars).flatten = chars := by
  fun_induction wrap width chars with
  | case1 => rfl
  | case2 c chars ih => rw [List.flatten_cons, ih, List.cons_append, List.take_append_drop]

/-- The lines of a block: none is empty, and all are of the alphabet. -/
def Lines (lines : List (List Char)) : Prop :=
  ∀ line ∈ lines, line ≠ [] ∧ ∀ c ∈ line, c ∈ Base64.alphabet

theorem lines_wrap (width : Nat) (contents : Bytes) :
    Lines (wrap width (Base64.encodeChars contents)) := by
  intro line mem
  refine ⟨wrap_ne_nil line mem, fun c hc => ?_⟩
  have written := flatten_wrap width (Base64.encodeChars contents)
  exact Base64.mem_alphabet_of_mem_encodeChars c (written ▸ List.mem_flatten_of_mem mem hc)

theorem joined_cons (e : LineEnd) (line : List Char) (lines : List (List Char)) :
    joined e (line :: lines) = line ++ (e.chars ++ joined e lines) := by
  rw [joined, List.flatMap_cons, List.append_assoc, joined]

@[simp] theorem ascii_append (xs ys : List Char) : ascii (xs ++ ys) = ascii xs ++ ascii ys :=
  List.map_append

theorem asText_ascii {chars : List Char} (h : ∀ c ∈ chars, c.toNat < 0x80) :
    asText (ascii chars) = .ok chars := by
  have single : ascii chars = chars.flatMap Utf8.encodeChar := by
    rw [ascii, ← List.flatMap_pure_eq_map]
    exact List.flatMap_congr fun c hc => (Utf8.encodeChar_of_ascii (h c hc)).symm
  rw [asText, single, Utf8.decode, Utf8.decodeFrom_flatMap_encodeChar]
  rfl

/-- What the scanner and the decoder have to know about a character of the alphabet. -/
theorem alphabet_clean {c : Char} (h : c ∈ Base64.alphabet) :
    c.toNat < 0x80 ∧ isBlank c = false ∧ UInt8.ofNat c.toNat ∉ [0x2D, 0x0A, 0x0D] ∧
      isSpace (UInt8.ofNat c.toNat) = false := by
  have all : Base64.alphabet.all fun c => c.toNat < 0x80 ∧ isBlank c = false ∧
      UInt8.ofNat c.toNat ∉ [0x2D, 0x0A, 0x0D] ∧ isSpace (UInt8.ofNat c.toNat) = false := by decide
  exact of_decide_eq_true (List.all_eq_true.1 all c h)

theorem lineEnd_clean {e : LineEnd} {c : Char} (h : c ∈ e.chars) :
    c.toNat < 0x80 ∧ isBlank c = true ∧ UInt8.ofNat c.toNat ≠ 0x2D ∧
      isSpace (UInt8.ofNat c.toNat) = true := by
  have all : e.chars.all fun c => c.toNat < 0x80 ∧ isBlank c = true ∧ UInt8.ofNat c.toNat ≠ 0x2D ∧
      isSpace (UInt8.ofNat c.toNat) = true := by
    cases e <;> decide
  exact of_decide_eq_true (List.all_eq_true.1 all c h)

section Joined

variable {e : LineEnd} {lines : List (List Char)} (h : Lines lines)

include h

theorem mem_joined {c : Char} (hc : c ∈ joined e lines) : c ∈ Base64.alphabet ∨ c ∈ e.chars := by
  obtain ⟨line, mem, hc⟩ := List.mem_flatMap.1 hc
  exact (List.mem_append.1 hc).imp_left ((h line mem).2 c)

theorem hyphen_not_mem_joined : (0x2D : UInt8) ∉ ascii (joined e lines) := by
  intro mem
  obtain ⟨c, hc, hyphen⟩ := List.mem_map.1 mem
  rcases mem_joined h hc with base64 | lineEnd
  · exact (alphabet_clean base64).2.2.1 (by simp [hyphen])
  · exact (lineEnd_clean lineEnd).2.2.1 hyphen

/-- The text begins with a character of the alphabet, if it is not empty. -/
theorem head?_joined {b : UInt8} (hb : b ∈ (ascii (joined e lines)).head?) :
    b ∉ [0x2D, 0x0A, 0x0D] ∧ isSpace b = false := by
  cases lines with
  | nil => cases hb
  | cons line lines =>
    obtain ⟨nonempty, base64⟩ := h line List.mem_cons_self
    obtain ⟨c, rest, rfl⟩ := List.exists_cons_of_ne_nil nonempty
    cases hb
    exact (alphabet_clean (base64 c List.mem_cons_self)).2.2

theorem asText_joined : asText (ascii (joined e lines)) = .ok (joined e lines) :=
  asText_ascii fun _ hc =>
    (mem_joined h hc).elim (fun base64 => (alphabet_clean base64).1)
      fun lineEnd => (lineEnd_clean lineEnd).1

theorem filter_joined : (joined e lines).filter (!isBlank ·) = lines.flatten := by
  induction lines with
  | nil => rfl
  | cons line lines ih =>
    obtain ⟨⟨-, base64⟩, rest⟩ := List.forall_mem_cons.1 h
    have kept : line.filter (!isBlank ·) = line :=
      List.filter_eq_self.2 fun c hc => by rw [(alphabet_clean (base64 c hc)).2.1]; rfl
    have dropped : e.chars.filter (!isBlank ·) = [] :=
      List.filter_eq_nil_iff.2 fun c hc => by rw [(lineEnd_clean hc).2.1]; decide
    rw [joined_cons, List.filter_append, List.filter_append, kept, dropped, ih rest,
      List.nil_append, List.flatten_cons]

end Joined

/-! ### No empty lines -/

/-- A line feed is not followed by another line end. -/
def Feeds (a b : UInt8) : Prop := a = 0x0A → b ∉ [0x0A, 0x0D]
  deriving Decidable

theorem isChain_append {xs ys : Bytes} (hxs : 0x0A ∉ xs) (hys : ys.IsChain Feeds) :
    (xs ++ ys).IsChain Feeds := by
  induction xs with
  | nil => exact hys
  | cons x xs ih =>
    obtain ⟨hx, hxs⟩ := not_or.1 (List.mem_cons.not.1 hxs)
    exact List.isChain_cons.2 ⟨fun _ _ feed => absurd feed.symm hx, ih hxs⟩

/-- A line ends in a line feed, and the next one begins with a character of the alphabet. -/
theorem isChain_joined {e : LineEnd} {lines : List (List Char)} (h : Lines lines) :
    (ascii (joined e lines)).IsChain Feeds := by
  induction lines with
  | nil => exact .nil
  | cons line lines ih =>
    obtain ⟨⟨-, base64⟩, rest⟩ := List.forall_mem_cons.1 h
    rw [joined_cons, ascii_append, ascii_append]
    refine isChain_append ?_ ?_
    · intro mem
      obtain ⟨c, hc, feed⟩ := List.mem_map.1 mem
      exact (alphabet_clean (base64 c hc)).2.2.1 (by simp [feed])
    · have fed : (0x0A :: ascii (joined e lines)).IsChain Feeds := by
        refine List.isChain_cons.2 ⟨fun b hb _ => ?_, ih rest⟩
        exact fun mem => (head?_joined rest hb).1 (List.mem_cons_of_mem _ mem)
      cases e with
      | lf => exact fed
      | crlf =>
        show ([0x0D] ++ 0x0A :: ascii (joined .crlf lines)).IsChain Feeds
        exact isChain_append (by decide) fed

/-- Text without an empty line has no header lines. -/
theorem splitHeaders_of_isChain {payload : Bytes} (h : payload.IsChain Feeds) :
    splitHeaders payload = ([], payload) := by
  have lf : ¬ Bytes.ofAscii "\n\n" <:+: payload := by
    intro found
    have inside := List.IsChain.infix h found
    exact absurd inside (by decide)
  have crlf : ¬ Bytes.ofAscii "\r\n\r\n" <:+: payload := by
    intro found
    have inside := List.IsChain.infix h found
    exact absurd inside (by decide)
  rw [splitHeaders, cutAt_eq_none lf, cutAt_eq_none crlf]

/-! ## Blocks -/

/-- The parts of the block of a certificate. -/
def Wrapping.captured (w : Wrapping) (contents : Bytes) : Capture where
  begins := Bytes.ofAscii "CERTIFICATE"
  headers := ascii []
  data := ascii (w.payload contents)
  ends := Bytes.ofAscii "CERTIFICATE"

theorem dropWhile_lineEnd (e : LineEnd) {rest : Bytes} (h : ∀ b ∈ rest.head?, isSpace b = false) :
    (ascii e.chars ++ rest).dropWhile isSpace = rest := by
  have spaces : ∀ b ∈ ascii e.chars, isSpace b = true := by
    intro b hb
    obtain ⟨c, hc, rfl⟩ := List.mem_map.1 hb
    exact (lineEnd_clean hc).2.2.2
  rw [List.dropWhile_append_of_pos spaces]
  cases rest with
  | nil => rfl
  | cons b rest => exact List.dropWhile_cons_of_neg (by simp [h b rfl])

theorem capture_block (w : Wrapping) (contents : Bytes) {front : Bytes} (clean : 0x2D ∉ front)
    (rest : Bytes) :
    capture (front ++ (w.block contents ++ rest)) =
      some (w.captured contents, rest.dropWhile isSpace) := by
  have lines := lines_wrap w.width contents
  have opens : Bytes.ofAscii "-----BEGIN CERTIFICATE-----" =
      beginMarker ++ (Bytes.ofAscii "CERTIFICATE" ++ labelEnd) := by decide
  have closes : Bytes.ofAscii "-----END CERTIFICATE-----" =
      endMarker ++ (Bytes.ofAscii "CERTIFICATE" ++ labelEnd) := by decide
  have label : 0x2D ∉ Bytes.ofAscii "CERTIFICATE" := by decide
  have payload : 0x2D ∉ ascii (w.payload contents) := hyphen_not_mem_joined lines
  have inside (tail : Bytes) : (ascii w.lineEnd.chars ++ (ascii (w.payload contents) ++
      (endMarker ++ tail))).dropWhile isSpace =
        ascii (w.payload contents) ++ (endMarker ++ tail) := by
    refine dropWhile_lineEnd _ fun b hb => ?_
    rw [List.head?_append] at hb
    rcases Option.or_eq_some_iff.1 hb with first | ⟨-, marker⟩
    · exact (head?_joined lines first).2
    · cases marker
      decide
  -- Each marker begins with a hyphen, and nothing in front of it holds one.
  rw [Wrapping.block, opens, closes, capture]
  simp only [List.append_assoc, Option.bind_eq_bind]
  rw [cutAt_append (m := 0x2D) rfl clean, Option.bind_some]
  dsimp only
  rw [cutAt_append (m := 0x2D) rfl label, Option.bind_some]
  dsimp only
  rw [inside, cutAt_append (m := 0x2D) rfl payload, Option.bind_some]
  dsimp only
  rw [cutAt_append (m := 0x2D) rfl label, Option.bind_some]
  dsimp only
  rw [Wrapping.payload, splitHeaders_of_isChain (isChain_joined lines)]
  rfl

/-- What stands in the block of a certificate is that certificate. -/
theorem block_captured (w : Wrapping) (contents : Bytes) :
    (w.captured contents).block = .ok { label := "CERTIFICATE", contents } := by
  have lines := lines_wrap w.width contents
  have low : "CERTIFICATE".toList.all fun c => c.toNat < 0x80 := by decide
  have label : asText (Bytes.ofAscii "CERTIFICATE") = .ok "CERTIFICATE".toList :=
    asText_ascii fun c hc => of_decide_eq_true (List.all_eq_true.1 low c hc)
  have data : asText (ascii (w.payload contents)) = .ok (w.payload contents) := asText_joined lines
  have base64 : (w.payload contents).filter (!isBlank ·) = Base64.encodeChars contents :=
    (filter_joined lines).trans (flatten_wrap _ _)
  have headers : asText (ascii []) = .ok [] := asText_ascii (by simp)
  rw [Capture.block, Wrapping.captured, label, data]
  dsimp only [bind, Except.bind]
  rw [if_neg (by decide), if_neg (by decide), if_neg (not_not_intro rfl), base64,
    Base64.decode_encodeChars]
  dsimp only [pure, Except.pure]
  rw [headers]
  rfl

/-! ## All blocks -/

theorem written_cons (p : Part) (parts : List Part) :
    written (p :: parts) = p.wrapping.block p.contents ++ (p.after ++ written parts) := by
  rw [written, List.flatMap_cons, List.append_assoc, written]

/-- The spaces that are skipped end with the bytes in front of the next block. -/
theorem dropWhile_append_written (after : Bytes) (parts : List Part) :
    (after ++ written parts).dropWhile isSpace = after.dropWhile isSpace ++ written parts := by
  have stays : (written parts).dropWhile isSpace = written parts := by cases parts <;> rfl
  rw [List.dropWhile_append, stays]
  split
  · rename_i empty
    rw [List.isEmpty_iff.1 empty, List.nil_append]
  · rfl

theorem capture_of_clean {data : Bytes} (clean : 0x2D ∉ data) : capture data = none := by
  have absent : ¬ beginMarker <:+: data := fun found => clean (found.subset (by decide))
  rw [capture, cutAt_eq_none absent]
  rfl

theorem captures_of_none {data : Bytes} (h : capture data = none) : captures data = [] := by
  rw [captures]
  split
  · rfl
  · rename_i some
    cases some.symm.trans h

theorem captures_of_some {data rest : Bytes} {c : Capture} (h : capture data = some (c, rest)) :
    captures data = c :: captures rest := by
  rw [captures]
  split
  · rename_i none
    cases none.symm.trans h
  · rename_i some
    cases some.symm.trans h
    rfl

/-- The scanner finds the block of each certificate in turn. -/
theorem captures_written {parts : List Part} (clean : ∀ p ∈ parts, 0x2D ∉ p.after) {front : Bytes}
    (first : 0x2D ∉ front) :
    captures (front ++ written parts) = parts.map fun p => p.wrapping.captured p.contents := by
  induction parts generalizing front with
  | nil =>
    rw [written, List.flatMap_nil, List.append_nil]
    exact captures_of_none (capture_of_clean first)
  | cons p parts ih =>
    obtain ⟨after, rest⟩ := List.forall_mem_cons.1 clean
    have skipped : 0x2D ∉ p.after.dropWhile isSpace :=
      fun mem => after ((List.dropWhile_sublist isSpace).subset mem)
    have here := capture_block p.wrapping p.contents first (p.after ++ written parts)
    rw [written_cons, captures_of_some here, dropWhile_append_written, ih rest skipped,
      List.map_cons]

/-- Written certificates are read back, each once and in their order. -/
theorem parseMany_written {parts : List Part} (clean : ∀ p ∈ parts, 0x2D ∉ p.after) {front : Bytes}
    (first : 0x2D ∉ front) :
    parseMany (front ++ written parts) =
      .ok (parts.map fun p => { label := "CERTIFICATE", contents := p.contents }) := by
  rw [parseMany, captures_written clean first, mapM_eq_ok_iff, List.forall₂_map_left_iff,
    List.forall₂_map_right_iff, List.forall₂_same]
  exact fun p _ => block_captured p.wrapping p.contents

end QuoteProver.Text.Pem
