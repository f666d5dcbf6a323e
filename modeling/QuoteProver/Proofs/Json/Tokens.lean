import QuoteProver.Proofs.Json.Grammar

/-!
# Reading the tokens of JSON texts

The readers of numbers and strings take what the grammar calls a number or a string, and all of it.
A string ends at its closing mark.  A number ends where no byte follows that would go on with it
(`Ends`), so this is asked of the bytes behind it.
-/

namespace QuoteProver.Json

open Node

/-! ## White space -/

theorem Blanks.nil : Blanks [] := fun _ mem => nomatch mem

theorem exists_blanks (s : Bytes) : ∃ gap, Blanks gap ∧ s = gap ++ skipBlanks s :=
  ⟨s.takeWhile isBlank, List.all_eq_true.1 List.all_takeWhile,
    List.takeWhile_append_dropWhile.symm⟩

/-- The bytes do not start with white space. -/
def Solid (s : Bytes) : Prop := ∀ b ∈ s.head?, isBlank b = false

theorem skipBlanks_of_solid {s : Bytes} (h : Solid s) : skipBlanks s = s := by
  cases s with
  | nil => rfl
  | cons b s => exact List.dropWhile_cons_of_neg (by simp [h b rfl])

theorem skipBlanks_append {gap s : Bytes} (hgap : Blanks gap) (h : Solid s) :
    skipBlanks (gap ++ s) = s := by
  rw [skipBlanks, List.dropWhile_append_of_pos hgap]
  exact skipBlanks_of_solid h

theorem not_blank_of_isDigit {b : UInt8} (h : isDigit b = true) : isBlank b = false := by
  cases blank : isBlank b with
  | false => rfl
  | true =>
    simp only [isBlank, Bool.or_eq_true, decide_eq_true_eq] at blank
    obtain ((rfl | rfl) | rfl) | rfl := blank <;> cases h

/-! ## Where numbers end -/

/-- The byte would go on with a number. -/
def Continues (b : UInt8) : Prop := isDigit b = true ∨ b = 0x2E ∨ b = 0x65 ∨ b = 0x45
  deriving Decidable

/-- The bytes do not go on with a number. -/
def Ends (s : Bytes) : Prop := ∀ b ∈ s.head?, ¬ Continues b

theorem Ends.nil : Ends [] := fun _ mem => nomatch mem

theorem ends_cons {b : UInt8} {s : Bytes} (h : ¬ Continues b) : Ends (b :: s) := by
  rintro _ ⟨⟩
  exact h

theorem Ends.blanks_append {gap s : Bytes} (hgap : Blanks gap) (h : Ends s) : Ends (gap ++ s) := by
  cases gap with
  | nil => exact h
  | cons b gap =>
    refine ends_cons ?_
    have blank := hgap b List.mem_cons_self
    simp only [isBlank, Bool.or_eq_true, decide_eq_true_eq] at blank
    obtain ((rfl | rfl) | rfl) | rfl := blank <;> decide

/-! ## Numbers -/

theorem readDigits1_eq_some_iff {s rest : Bytes} {digits : List Nat} :
    readDigits1 s = some (digits, rest) ↔
      ∃ t, s = t ++ rest ∧ DigitsOf digits t ∧ ∀ b ∈ rest.head?, isDigit b = false := by
  unfold readDigits1 readDigits DigitsOf
  constructor
  · intro h
    split at h
    · cases h
    · rename_i found nonempty
      cases h
      refine ⟨s.takeWhile isDigit, List.takeWhile_append_dropWhile.symm,
        ⟨fun empty => ?_, List.all_eq_true.1 List.all_takeWhile, rfl⟩, fun b mem => ?_⟩
      · exact nonempty _ (by rw [empty]; rfl)
      · have stop := List.head?_dropWhile_not isDigit s
        rw [mem] at stop
        exact stop
  · rintro ⟨t, rfl, ⟨nonempty, all, rfl⟩, stop⟩
    have none_more : rest.takeWhile isDigit = [] ∧ rest.dropWhile isDigit = rest := by
      cases rest with
      | nil => exact ⟨rfl, rfl⟩
      | cons b rest =>
        have hb : ¬ isDigit b = true := by simp [stop b rfl]
        exact ⟨List.takeWhile_cons_of_neg hb, List.dropWhile_cons_of_neg hb⟩
    rw [List.takeWhile_append_of_pos all, List.dropWhile_append_of_pos all, none_more.1, none_more.2,
      List.append_nil]
    split
    · rename_i empty
      exact absurd (List.map_eq_nil_iff.1 (Prod.mk.inj empty).1) nonempty
    · rfl

theorem DigitsOf.head {digits : List Nat} {s : Bytes} (h : DigitsOf digits s) :
    ∃ b tail, s = b :: tail ∧ isDigit b = true := by
  obtain ⟨nonempty, all, -⟩ := h
  cases s with
  | nil => exact absurd rfl nonempty
  | cons b tail => exact ⟨b, tail, rfl, all b List.mem_cons_self⟩

theorem fractionOf_of_readFraction {s rest : Bytes} {fraction : List Nat}
    (h : readFraction s = some (fraction, rest)) : ∃ t, s = t ++ rest ∧ FractionOf fraction t := by
  unfold readFraction at h
  split at h
  · obtain ⟨t, rfl, digits, -⟩ := readDigits1_eq_some_iff.1 h
    exact ⟨_, rfl, .point digits⟩
  · cases h
    exact ⟨[], rfl, .none⟩

theorem readFraction_append {t rest : Bytes} {fraction : List Nat} (h : FractionOf fraction t)
    (ends : ∀ b ∈ rest.head?, isDigit b = false ∧ b ≠ 0x2E) :
    readFraction (t ++ rest) = some (fraction, rest) := by
  cases h with
  | none =>
    unfold readFraction
    split
    · rename_i first
      rw [List.nil_append] at first
      exact absurd rfl (ends 0x2E (by rw [first]; rfl)).2
    · rfl
  | point digits =>
    exact readDigits1_eq_some_iff.2 ⟨_, rfl, digits, fun b mem => (ends b mem).1⟩

theorem exponentOf_of_readExponent {s rest : Bytes} {exponent : Option (Bool × List Nat)}
    (h : readExponent s = some (exponent, rest)) : ∃ t, s = t ++ rest ∧ ExponentOf exponent t := by
  unfold readExponent at h
  split at h
  · rename_i e tail
    split at h
    · rename_i letter
      obtain ⟨⟨digits, after⟩, hdigits, h⟩ := Option.bind_eq_some_iff.1 h
      cases h
      obtain ⟨t, written, digits, -⟩ := readDigits1_eq_some_iff.1 hdigits
      have letter : e = 0x65 ∨ e = 0x45 := by simpa using letter
      split at written
      · exact ⟨_, congrArg (e :: 0x2B :: ·) written, .letter letter .plus digits⟩
      · exact ⟨_, congrArg (e :: 0x2D :: ·) written, .letter letter (.sign .minus) digits⟩
      · exact ⟨_, congrArg (e :: ·) written, .letter letter (.sign .none) digits⟩
    · cases h
      exact ⟨[], rfl, .none⟩
  · cases h
    exact ⟨[], rfl, .none⟩

theorem readExponent_append {t rest : Bytes} {exponent : Option (Bool × List Nat)}
    (h : ExponentOf exponent t) (ends : Ends rest) :
    readExponent (t ++ rest) = some (exponent, rest) := by
  cases h with
  | none =>
    cases rest with
    | nil => rfl
    | cons b rest =>
      have no_letter : ¬ (b = 0x65 || b = 0x45) = true := fun letter =>
        ends b rfl (.inr (.inr (by simpa using letter)))
      exact if_neg no_letter
  | @letter e negative digits sign s letter hsign hdigits =>
    have read : readDigits1 (s ++ rest) = some (digits, rest) :=
      readDigits1_eq_some_iff.2 ⟨s, rfl, hdigits, fun b mem => by
        simpa using fun digit => ends b mem (.inl digit)⟩
    have found : (e = 0x65 || e = 0x45) = true := by simpa using letter
    -- Without a sign the digits come at once, and they are not taken for one.
    have unsigned : ∀ b ∈ (s ++ rest).head?, b ≠ 0x2B ∧ b ≠ 0x2D := by
      obtain ⟨b, tail, rfl, digit⟩ := hdigits.head
      rintro _ ⟨⟩
      constructor
      · rintro rfl
        exact absurd digit (by decide)
      · rintro rfl
        exact absurd digit (by decide)
    refine (if_pos found).trans ?_
    cases hsign with
    | plus => exact congrArg (Option.bind · _) read
    | sign h =>
      cases h with
      | minus => exact congrArg (Option.bind · _) read
      | none =>
        dsimp only [List.append_eq, List.nil_append]
        split
        · rename_i first
          exact absurd rfl (unsigned 0x2B (by rw [first]; rfl)).1
        · rename_i first
          exact absurd rfl (unsigned 0x2D (by rw [first]; rfl)).2
        · exact congrArg (Option.bind · _) read

/-- A number behind its sign. -/
def readUnsigned (negative : Bool) (s : Bytes) : Option (Number × Bytes) := do
  let (digits, s) ← readDigits1 s
  if digits.head? = some 0 && digits.length ≠ 1 then none else
  let (fraction, s) ← readFraction s
  let (exponent, s) ← readExponent s
  return ({ negative, digits, fraction, exponent }, s)

theorem readNumber_minus (s : Bytes) : readNumber (0x2D :: s) = readUnsigned true s := rfl

theorem readNumber_of_unsigned {s : Bytes} (h : ∀ b ∈ s.head?, b ≠ 0x2D) :
    readNumber s = readUnsigned false s := by
  unfold readNumber
  split
  rename_i negative s' sign
  split at sign
  · exact absurd rfl (h 0x2D rfl)
  · cases sign
    rfl

theorem numberOf_of_readUnsigned {negative : Bool} {s rest sign : Bytes} {n : Number}
    (hsign : SignOf negative sign) (h : readUnsigned negative s = some (n, rest)) :
    ∃ t, s = t ++ rest ∧ NumberOf n (sign ++ t) := by
  simp only [readUnsigned, Option.bind_eq_bind, Option.bind_eq_some_iff, Prod.exists] at h
  obtain ⟨digits, s₁, hdigits, h⟩ := h
  split at h
  · cases h
  · rename_i plain
    simp only [Option.bind_eq_some_iff, Prod.exists] at h
    obtain ⟨fraction, s₂, hfraction, exponent, s₃, hexponent, h⟩ := h
    cases h
    obtain ⟨whole, rfl, digitsOf, -⟩ := readDigits1_eq_some_iff.1 hdigits
    obtain ⟨point, rfl, fractionOf⟩ := fractionOf_of_readFraction hfraction
    obtain ⟨power, rfl, exponentOf⟩ := exponentOf_of_readExponent hexponent
    have zeros : digits.head? = some 0 → digits.length = 1 := by simpa using plain
    refine ⟨whole ++ point ++ power, by simp only [List.append_assoc], ?_⟩
    simpa only [List.append_assoc] using NumberOf.mk hsign digitsOf zeros fractionOf exponentOf

/-- What follows the digits in front of the point is no further digit. -/
theorem FractionOf.no_digit {fraction : List Nat} {t rest : Bytes} (h : FractionOf fraction t)
    (rest_ends : ∀ b ∈ rest.head?, isDigit b = false) :
    ∀ b ∈ (t ++ rest).head?, isDigit b = false := by
  cases h with
  | none => exact rest_ends
  | point =>
    rintro _ ⟨⟩
    rfl

theorem ExponentOf.no_digit {exponent : Option (Bool × List Nat)} {t rest : Bytes}
    (h : ExponentOf exponent t) (ends : Ends rest) :
    ∀ b ∈ (t ++ rest).head?, isDigit b = false ∧ b ≠ 0x2E := by
  cases h with
  | none =>
    intro b mem
    have stop := ends b mem
    simp only [Continues, not_or, Bool.not_eq_true] at stop
    exact ⟨stop.1, stop.2.1⟩
  | letter letter =>
    rintro _ ⟨⟩
    rcases letter with rfl | rfl <;> decide

theorem readUnsigned_append (negative : Bool) {digits fraction : List Nat}
    {exponent : Option (Bool × List Nat)} {whole point power rest : Bytes}
    (hdigits : DigitsOf digits whole) (zeros : digits.head? = some 0 → digits.length = 1)
    (hfraction : FractionOf fraction point) (hexponent : ExponentOf exponent power)
    (ends : Ends rest) :
    readUnsigned negative (whole ++ (point ++ (power ++ rest))) =
      some ({ negative, digits, fraction, exponent }, rest) := by
  have after_point := hexponent.no_digit ends
  have after_whole := hfraction.no_digit fun b mem => (after_point b mem).1
  have read_whole := readDigits1_eq_some_iff.2 ⟨whole, rfl, hdigits, after_whole⟩
  have plain : ¬ (digits.head? = some 0 && digits.length ≠ 1) = true := by simpa using zeros
  simp only [readUnsigned, read_whole, Option.bind_eq_bind, Option.bind_some, if_neg plain,
    readFraction_append hfraction after_point, readExponent_append hexponent ends]
  rfl

theorem numberOf_of_readNumber {s rest : Bytes} {n : Number}
    (h : readNumber s = some (n, rest)) : ∃ t, s = t ++ rest ∧ NumberOf n t := by
  by_cases minus : s.head? = some 0x2D
  · obtain ⟨tail, rfl⟩ := List.head?_eq_some_iff.1 minus
    obtain ⟨t, rfl, number⟩ := numberOf_of_readUnsigned .minus ((readNumber_minus tail).symm.trans h)
    exact ⟨_, rfl, number⟩
  · have unsigned : ∀ b ∈ s.head?, b ≠ 0x2D := by
      rintro b mem rfl
      exact minus mem
    rw [readNumber_of_unsigned unsigned] at h
    exact numberOf_of_readUnsigned .none h

/-- A number starts with a sign or a digit. -/
theorem NumberOf.head {n : Number} {t : Bytes} (h : NumberOf n t) :
    ∃ b tail, t = b :: tail ∧ (b = 0x2D ∨ isDigit b = true) := by
  obtain ⟨sign, digits, -, -, -⟩ := h
  obtain ⟨b, tail, rfl, digit⟩ := digits.head
  cases sign with
  | minus => exact ⟨_, _, rfl, .inl rfl⟩
  | none => exact ⟨_, _, rfl, .inr digit⟩

theorem readNumber_append {n : Number} {t rest : Bytes} (h : NumberOf n t) (ends : Ends rest) :
    readNumber (t ++ rest) = some (n, rest) := by
  obtain ⟨sign, digits, zeros, fraction, exponent⟩ := h
  have read (negative : Bool) :=
    readUnsigned_append negative digits zeros fraction exponent ends
  simp only [List.append_assoc]
  cases sign with
  | minus => exact (readNumber_minus _).trans (read true)
  | none =>
    refine (readNumber_of_unsigned ?_).trans (read false)
    obtain ⟨b, tail, rfl, digit⟩ := digits.head
    rintro _ ⟨⟩ rfl
    exact absurd digit (by decide)

/-! ## Strings -/

/-- A string is read up to its closing mark, whatever follows. -/
theorem readUnits_eq_some_iff {s rest : Bytes} {units : List Unit16} :
    readUnits s = some (units, rest) ↔ ∃ t, s = t ++ 0x22 :: rest ∧ UnitsOf units t := by
  constructor
  · intro h
    fun_induction readUnits s generalizing units with
    | case1 => cases h
    | case2 =>
      cases h
      exact ⟨[], rfl, .nil⟩
    | case3 a b c d tail ih =>
      simp only [Option.bind_eq_bind, Option.bind_eq_some_iff, Prod.exists] at h
      obtain ⟨n, hex, units, after, found, h⟩ := h
      cases h
      obtain ⟨t, rfl, spelt⟩ := ih found
      exact ⟨_, rfl, .number hex spelt⟩
    | case4 e tail _ ih =>
      simp only [Option.bind_eq_bind, Option.bind_eq_some_iff, Prod.exists] at h
      obtain ⟨b, letter, units, after, found, h⟩ := h
      cases h
      obtain ⟨t, rfl, spelt⟩ := ih found
      exact ⟨_, rfl, .letter letter spelt⟩
    | case5 => cases h
    | case6 b tail not_end _ not_letter plain ih =>
      simp only [Option.bind_eq_bind, Option.bind_eq_some_iff, Prod.exists] at h
      obtain ⟨units, after, found, h⟩ := h
      cases h
      obtain ⟨t, rfl, spelt⟩ := ih found
      refine ⟨_, rfl, .plain (UInt8.not_lt.1 plain) not_end ?_ spelt⟩
      rintro rfl
      cases t with
      | nil => exact not_letter _ _ rfl rfl
      | cons e t => exact not_letter _ _ rfl rfl
  · rintro ⟨t, rfl, spelt⟩
    induction spelt with
    | nil => rfl
    | plain printable not_end not_letter _ ih =>
      rw [List.cons_append, readUnits.eq_def]
      split
      · rename_i empty
        cases empty
      · rename_i first
        exact absurd (List.cons.inj first).1 not_end
      · rename_i first
        exact absurd (List.cons.inj first).1 not_letter
      · rename_i first
        exact absurd (List.cons.inj first).1 not_letter
      · rename_i first
        obtain ⟨rfl, rfl⟩ := List.cons.inj first
        rw [if_neg (UInt8.not_lt.2 printable), ih]
        rfl
    | @letter e b units s letter _ ih =>
      have not_number : e ≠ 0x75 := by
        rintro rfl
        cases letter
      rw [List.cons_append, List.cons_append, readUnits.eq_def]
      split
      · rename_i empty
        cases empty
      · rename_i first
        cases (List.cons.inj first).1
      · rename_i first
        exact absurd (List.cons.inj (List.cons.inj first).2).1 not_number
      · rename_i first
        obtain ⟨rfl, rfl⟩ := List.cons.inj (List.cons.inj first).2
        rw [letter, ih]
        rfl
      · rename_i other first
        obtain ⟨rfl, rfl⟩ := List.cons.inj first
        exact absurd rfl (other e (s ++ 0x22 :: rest) rfl)
    | number hex _ ih =>
      simp only [List.cons_append, readUnits, hex, ih]
      rfl

theorem readString_eq_some_iff {s rest : Bytes} {text : Option String} :
    readString s = some (text, rest) ↔ ∃ t, 0x22 :: s = t ++ rest ∧ StringOf text t := by
  simp only [readString, Option.bind_eq_bind, Option.bind_eq_some_iff, Prod.exists,
    readUnits_eq_some_iff]
  constructor
  · rintro ⟨units, _, ⟨t, rfl, spelt⟩, h⟩
    cases h
    exact ⟨_, by simp, .mk spelt⟩
  · rintro ⟨_, written, ⟨spelt⟩⟩
    refine ⟨_, rest, ⟨_, ?_, spelt⟩, rfl⟩
    simpa using written

end QuoteProver.Json
