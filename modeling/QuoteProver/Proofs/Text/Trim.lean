import Mathlib.Data.List.DropRight
import QuoteProver.Text.Blank

/-!
# What is left of a text without its margins

`trim` leaves of a text what stands between the white space at its ends (`trim_eq_iff`).  `Bare` says
what is left if one `0x` in front is dropped as well.  Each text leaves one thing (`Bare.unique`).
-/

namespace QuoteProver.Text

/-! ## White space at the ends -/

/-- White space and nothing else. -/
def Blank (text : List Char) : Prop := ∀ c ∈ text, isBlank c = true

/-- No white space stands at either end. -/
def Trimmed (text : List Char) : Prop :=
  (∀ c ∈ text.head?, isBlank c = false) ∧ ∀ c ∈ text.getLast?, isBlank c = false

theorem trimmed_of_solid {text : List Char} (solid : ∀ c ∈ text, isBlank c = false) :
    Trimmed text :=
  ⟨fun c h => solid c (List.mem_of_head? h), fun c h => solid c (List.mem_of_getLast? h)⟩

theorem dropWhile_of_blank {text : List Char} (blank : Blank text) : text.dropWhile isBlank = [] :=
  List.dropWhile_eq_nil_iff.2 blank

/-- White space in front goes, up to what does not start with any. -/
theorem dropWhile_append_of_blank {front text : List Char} (blank : Blank front)
    (solid : ∀ c ∈ text.head?, isBlank c = false) : (front ++ text).dropWhile isBlank = text := by
  rw [List.dropWhile_append_of_pos blank]
  cases text with
  | nil => rfl
  | cons c text => exact List.dropWhile_cons_of_neg (by simp [solid c rfl])

theorem trim_append {before core after : List Char} (front : Blank before) (trimmed : Trimmed core)
    (behind : Blank after) : trim (before ++ core ++ after) = core := by
  obtain ⟨solid, solid'⟩ := trimmed
  rw [trim, List.append_assoc]
  cases core with
  | nil =>
    have blank : Blank (before ++ ([] ++ after)) := fun c h =>
      (List.mem_append.1 h).elim (front c) (behind c)
    rw [dropWhile_of_blank blank]
    rfl
  | cons first core =>
    have start : ∀ c ∈ (first :: core ++ after).head?, isBlank c = false := solid
    have stop : ∀ c ∈ (first :: core).reverse.head?, isBlank c = false := by
      rwa [List.head?_reverse]
    have blank : Blank after.reverse := fun c h => behind c (List.mem_reverse.1 h)
    rw [dropWhile_append_of_blank front start, List.reverse_append,
      dropWhile_append_of_blank blank stop, List.reverse_reverse]

theorem exists_trim (text : List Char) :
    ∃ before after, text = before ++ trim text ++ after ∧ Blank before ∧ Blank after ∧
      Trimmed (trim text) := by
  have trim_eq : trim text = (text.dropWhile isBlank).rdropWhile isBlank := rfl
  have parts : text =
      text.takeWhile isBlank ++ trim text ++ (text.dropWhile isBlank).rtakeWhile isBlank := by
    rw [trim_eq, List.append_assoc, List.rdropWhile_append_rtakeWhile,
      List.takeWhile_append_dropWhile]
  refine ⟨_, _, parts, fun c h => List.mem_takeWhile_imp h, fun c h => List.mem_rtakeWhile_imp h,
    ?_, ?_⟩
  · -- The start of what is left is that of the text without the white space in front.
    intro c hc
    obtain ⟨tail, htail⟩ := (List.rdropWhile_prefix isBlank (l := text.dropWhile isBlank))
    have first : (text.dropWhile isBlank).head? = some c := by
      rw [← htail, List.head?_append, ← trim_eq, hc, Option.some_or]
    have not_blank := List.head?_dropWhile_not isBlank text
    rw [first] at not_blank
    exact not_blank
  · intro c hc
    have nonempty : trim text ≠ [] := List.ne_nil_of_mem (List.mem_of_getLast? hc)
    rw [List.getLast?_eq_some_getLast nonempty] at hc
    cases hc
    exact eq_false_of_ne_true (List.rdropWhile_last_not isBlank _ nonempty)

theorem trim_eq_iff {text core : List Char} :
    trim text = core ↔ ∃ before after, text = before ++ core ++ after ∧ Blank before ∧ Blank after ∧
      Trimmed core := by
  constructor
  · rintro rfl
    exact exists_trim text
  · rintro ⟨before, after, rfl, front, behind, trimmed⟩
    exact trim_append front trimmed behind

/-- What starts with no white space starts with the same character when it is trimmed. -/
theorem exists_trim_cons {c : Char} (solid : isBlank c = false) (text : List Char) :
    ∃ tail, trim (c :: text) = c :: tail := by
  obtain ⟨before, after, parts, front, behind, -⟩ := exists_trim (c :: text)
  have not_blank {blanks : List Char} (blank : Blank blanks) : c ∉ blanks := fun mem => by
    have contrary := blank c mem
    rw [solid] at contrary
    cases contrary
  cases before with
  | cons first before =>
    obtain ⟨rfl, -⟩ := List.cons.inj parts
    exact absurd List.mem_cons_self (not_blank front)
  | nil =>
    cases core : trim (c :: text) with
    | nil =>
      rw [core] at parts
      obtain rfl : c :: text = after := parts
      exact absurd List.mem_cons_self (not_blank behind)
    | cons first tail =>
      rw [core] at parts
      obtain ⟨rfl, -⟩ := List.cons.inj parts
      exact ⟨tail, rfl⟩

/-! ## A mark in front -/

/-- What is left of a text without the white space at its ends and then without one `0x` in front. -/
inductive Bare : List Char → List Char → Prop
  | marked {before core after : List Char} : Blank before → Blank after →
      Trimmed ('0' :: 'x' :: core) → Bare (before ++ '0' :: 'x' :: core ++ after) core
  | unmarked {before core after : List Char} : Blank before → Blank after → Trimmed core →
      (∀ rest, core ≠ '0' :: 'x' :: rest) → Bare (before ++ core ++ after) core

theorem bare_of_trim_marked {text core : List Char} (h : trim text = '0' :: 'x' :: core) :
    Bare text core := by
  obtain ⟨before, after, rfl, front, behind, trimmed⟩ := trim_eq_iff.1 h
  exact .marked front behind trimmed

theorem bare_of_trim {text core : List Char} (h : trim text = core)
    (unmarked : ∀ rest, core ≠ '0' :: 'x' :: rest) : Bare text core := by
  obtain ⟨before, after, rfl, front, behind, trimmed⟩ := trim_eq_iff.1 h
  exact .unmarked front behind trimmed unmarked

theorem bare_unmark (text : List Char) :
    Bare text (match trim text with
      | '0' :: 'x' :: rest => rest
      | core => core) := by
  split
  · rename_i rest marked
    exact bare_of_trim_marked marked
  · rename_i unmarked
    exact bare_of_trim rfl unmarked

theorem Bare.trim_eq {text core : List Char} (h : Bare text core) :
    trim text = '0' :: 'x' :: core ∨ trim text = core ∧ ∀ rest, core ≠ '0' :: 'x' :: rest := by
  cases h with
  | marked front behind trimmed => exact .inl (trim_append front trimmed behind)
  | unmarked front behind trimmed unmarked =>
    exact .inr ⟨trim_append front trimmed behind, unmarked⟩

theorem Bare.unique {text core core' : List Char} (h : Bare text core) (h' : Bare text core') :
    core = core' := by
  obtain marked | ⟨unmarked, other⟩ := h.trim_eq <;>
    obtain marked' | ⟨unmarked', other'⟩ := h'.trim_eq
  · simpa [marked] using marked'
  · exact absurd (unmarked'.symm.trans marked) (other' core)
  · exact absurd (unmarked.symm.trans marked') (other core')
  · exact unmarked.symm.trans unmarked'

end QuoteProver.Text
