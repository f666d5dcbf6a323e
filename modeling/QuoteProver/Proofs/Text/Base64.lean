import QuoteProver.Text.Base64

/-!
# Reading back Base64

`decode` undoes `encodeChars`, however many bytes the last group holds (`decode_encodeChars`), and
nothing but the `alphabet` is written.
-/

namespace QuoteProver.Text.Base64

/-! ## Characters -/

/-- The characters of Base64 text. -/
def alphabet : List Char := '=' :: (List.range 64).map sextetChar

theorem sextetChar_mem_alphabet {n : Nat} (h : n < 64) : sextetChar n ∈ alphabet :=
  List.mem_cons_of_mem _ (List.mem_map_of_mem (List.mem_range.2 h))

theorem sextet?_sextetChar {n : Nat} (h : n < 64) : sextet? (sextetChar n) = some n := by
  have all : ∀ n < 64, sextet? (sextetChar n) = some n := by decide
  exact all n h

theorem sextetChar_ne_filling {n : Nat} (h : n < 64) : sextetChar n ≠ '=' := by
  have all : ∀ n < 64, sextetChar n ≠ '=' := by decide
  exact all n h

/-- Only characters of the alphabet are written. -/
theorem mem_alphabet_of_mem_encodeChars {bytes : Bytes} :
    ∀ c ∈ encodeChars bytes, c ∈ alphabet := by
  fun_induction encodeChars bytes with
  | case1 a b c rest n ih =>
    have ha := a.toNat_lt
    have hb := b.toNat_lt
    have hc := c.toNat_lt
    simp only [List.forall_mem_cons]
    refine ⟨?_, ?_, ?_, ?_, ih⟩ <;> exact sextetChar_mem_alphabet (by omega)
  | case2 a b n =>
    have ha := a.toNat_lt
    have hb := b.toNat_lt
    simp only [List.forall_mem_cons]
    refine ⟨?_, ?_, ?_, List.mem_cons_self, by simp⟩ <;> exact sextetChar_mem_alphabet (by omega)
  | case3 a =>
    have ha := a.toNat_lt
    simp only [List.forall_mem_cons]
    refine ⟨?_, ?_, List.mem_cons_self, List.mem_cons_self, by simp⟩ <;>
      exact sextetChar_mem_alphabet (by omega)
  | case4 => simp

/-! ## Groups -/

theorem ofNat_eq {n : Nat} {b : UInt8} (h : n = b.toNat) : UInt8.ofNat n = b := by
  rw [h, UInt8.ofNat_toNat]

/-- The sextets of three bytes make up these bytes. -/
theorem group?_encodeChars (a b c : UInt8) {n : Nat}
    (hn : n = a.toNat * 65536 + b.toNat * 256 + c.toNat) :
    group? (sextetChar (n / 262144)) (sextetChar (n / 4096 % 64)) (sextetChar (n / 64 % 64))
      (sextetChar (n % 64)) = some [a, b, c] := by
  have ha := a.toNat_lt
  have hb := b.toNat_lt
  have hc := c.toNat_lt
  have first : UInt8.ofNat (n / 262144 * 4 + n / 4096 % 64 / 16) = a := ofNat_eq (by omega)
  have second : UInt8.ofNat (n / 4096 % 64 % 16 * 16 + n / 64 % 64 / 4) = b := ofNat_eq (by omega)
  have third : UInt8.ofNat (n / 64 % 64 % 4 * 64 + n % 64) = c := ofNat_eq (by omega)
  rw [group?, sextet?_sextetChar (by omega), sextet?_sextetChar (by omega),
    sextet?_sextetChar (by omega), sextet?_sextetChar (by omega)]
  simp only [Option.bind_eq_bind, Option.bind_some, first, second, third]
  rfl

theorem lastTwo?_encodeChars (a b : UInt8) {n : Nat} (hn : n = a.toNat * 1024 + b.toNat * 4) :
    lastTwo? (sextetChar (n / 4096)) (sextetChar (n / 64 % 64)) (sextetChar (n % 64)) =
      some [a, b] := by
  have ha := a.toNat_lt
  have hb := b.toNat_lt
  have first : UInt8.ofNat (n / 4096 * 4 + n / 64 % 64 / 16) = a := ofNat_eq (by omega)
  have second : UInt8.ofNat (n / 64 % 64 % 16 * 16 + n % 64 / 4) = b := ofNat_eq (by omega)
  have unused : n % 64 % 4 = 0 := by omega
  rw [lastTwo?, sextet?_sextetChar (by omega), sextet?_sextetChar (by omega),
    sextet?_sextetChar (by omega)]
  simp only [Option.bind_eq_bind, Option.bind_some, first, second, if_pos unused]

theorem lastByte?_encodeChars (a : UInt8) :
    lastByte? (sextetChar (a.toNat / 4)) (sextetChar (a.toNat % 4 * 16)) = some [a] := by
  have ha := a.toNat_lt
  have first : UInt8.ofNat (a.toNat / 4 * 4 + a.toNat % 4 * 16 / 16) = a := ofNat_eq (by omega)
  have unused : a.toNat % 4 * 16 % 16 = 0 := by omega
  rw [lastByte?, sextet?_sextetChar (by omega), sextet?_sextetChar (by omega)]
  simp only [Option.bind_eq_bind, Option.bind_some, first, if_pos unused]

/-! ## Whole texts -/

/-- A group that does not end in the filling is read in full. -/
theorem decode_cons {a b c d : Char} (rest : List Char) (h : d ≠ '=') :
    decode (a :: b :: c :: d :: rest) = do
      let bytes ← group? a b c d
      return bytes ++ (← decode rest) := by
  rw [decode]
  · exact fun _ last _ => h last
  · exact fun last _ => h last

/-- Written bytes are read back. -/
theorem decode_encodeChars (bytes : Bytes) : decode (encodeChars bytes) = some bytes := by
  fun_induction encodeChars bytes with
  | case1 a b c rest n ih =>
    have hc := c.toNat_lt
    rw [decode_cons _ (sextetChar_ne_filling (by omega)), group?_encodeChars a b c rfl, ih]
    rfl
  | case2 a b n =>
    have full : sextetChar (n % 64) ≠ '=' := sextetChar_ne_filling (by omega)
    rw [decode]
    · exact lastTwo?_encodeChars a b rfl
    · exact full
  | case3 a => exact lastByte?_encodeChars a
  | case4 => rfl

end QuoteProver.Text.Base64
