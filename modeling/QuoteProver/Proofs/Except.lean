import Mathlib.Data.List.Forall2

/-!
# Work that stops at the first failure

A sequence of steps succeeds when each step does (`bind_eq_ok_iff`).  Going through a list succeeds
when every element passes (`mapM_eq_ok_iff`), and otherwise fails as the first element does that does
not pass (`mapM_eq_error_iff`).
-/

namespace QuoteProver

variable {ε ε' α β : Type}

theorem bind_eq_ok_iff {x : Except ε α} {f : α → Except ε β} {b : β} :
    x >>= f = .ok b ↔ ∃ a, x = .ok a ∧ f a = .ok b := by
  cases x with
  | error e => simp [bind, Except.bind]
  | ok a => simp [bind, Except.bind]

theorem bind_eq_error_iff {x : Except ε α} {f : α → Except ε β} {e : ε} :
    x >>= f = .error e ↔ x = .error e ∨ ∃ a, x = .ok a ∧ f a = .error e := by
  cases x with
  | error e => simp [bind, Except.bind]
  | ok a => simp [bind, Except.bind]

theorem mapError_eq_ok_iff {x : Except ε α} {f : ε → ε'} {a : α} :
    x.mapError f = .ok a ↔ x = .ok a := by
  cases x <;> simp [Except.mapError]

theorem mapError_eq_error_iff {x : Except ε α} {f : ε → ε'} {e : ε'} :
    x.mapError f = .error e ↔ ∃ e', x = .error e' ∧ f e' = e := by
  cases x <;> simp [Except.mapError]

theorem ite_ok_error_eq_ok_iff {c : Prop} [Decidable c] {a a' : α} {e : ε} :
    (if c then .ok a else .error e : Except ε α) = .ok a' ↔ c ∧ a = a' := by
  by_cases h : c <;> simp [h]

/-- The first element of a list with a property. -/
def FirstWith (p : α → Prop) (xs : List α) (x : α) : Prop :=
  ∃ before after, xs = before ++ x :: after ∧ (∀ y ∈ before, ¬ p y) ∧ p x

theorem FirstWith.holds {p : α → Prop} {xs : List α} {x : α} (h : FirstWith p xs x) : p x := by
  obtain ⟨_, _, _, _, hx⟩ := h
  exact hx

theorem find?_eq_some_iff_firstWith {p : α → Prop} [DecidablePred p] {xs : List α} {x : α} :
    xs.find? (fun y => decide (p y)) = some x ↔ FirstWith p xs x := by
  rw [List.find?_eq_some_iff_append, FirstWith]
  constructor
  · rintro ⟨hx, before, after, rfl, none⟩
    exact ⟨before, after, rfl, by simpa using none, by simpa using hx⟩
  · rintro ⟨before, after, rfl, none, hx⟩
    exact ⟨by simpa using hx, before, after, rfl, by simpa using none⟩

section Traversal

variable {f : α → Except ε β}

theorem mapM_eq_ok_iff {xs : List α} {ys : List β} :
    xs.mapM f = .ok ys ↔ List.Forall₂ (fun x y => f x = .ok y) xs ys := by
  induction xs generalizing ys with
  | nil => simp [pure, Except.pure, eq_comm]
  | cons x xs ih =>
    rw [List.mapM_cons, bind_eq_ok_iff, List.forall₂_cons_left_iff]
    constructor
    · rintro ⟨y, hy, rest⟩
      obtain ⟨ys', hys, last⟩ := bind_eq_ok_iff.1 rest
      cases last
      exact ⟨y, ys', hy, ih.1 hys, rfl⟩
    · rintro ⟨y, ys', hy, hys, rfl⟩
      exact ⟨y, hy, bind_eq_ok_iff.2 ⟨ys', ih.2 hys, rfl⟩⟩

/-- The first element that does not pass decides. -/
theorem mapM_eq_error_iff {xs : List α} {e : ε} :
    xs.mapM f = .error e ↔ ∃ x, FirstWith (fun y => ∃ e', f y = .error e') xs x ∧ f x = .error e := by
  induction xs with
  | nil => simp [FirstWith, pure, Except.pure]
  | cons x xs ih =>
    rw [List.mapM_cons, bind_eq_error_iff]
    constructor
    · rintro (hx | ⟨z, hz, rest⟩)
      · exact ⟨x, ⟨[], xs, rfl, by simp, e, hx⟩, hx⟩
      · have passes : ¬ ∃ e', f x = .error e' := by simp [hz]
        rcases bind_eq_error_iff.1 rest with tail | ⟨zs, -, tail⟩
        · obtain ⟨y, ⟨before, after, rfl, pass, fails⟩, hy⟩ := ih.1 tail
          refine ⟨y, ⟨x :: before, after, rfl, ?_, fails⟩, hy⟩
          simpa only [List.forall_mem_cons] using ⟨passes, pass⟩
        · cases tail
    · rintro ⟨y, ⟨before, after, hxs, pass, fails⟩, hy⟩
      rcases before with _ | ⟨x', before⟩
      · obtain ⟨rfl, -⟩ := List.cons.inj hxs
        exact .inl hy
      · obtain ⟨rfl, rfl⟩ := List.cons.inj hxs
        have tail := ih.2 ⟨y, ⟨before, after, rfl, fun w hw => pass w (List.mem_cons_of_mem x hw),
          fails⟩, hy⟩
        cases hx : f x with
        | error e' => exact absurd ⟨e', hx⟩ (pass x List.mem_cons_self)
        | ok z => exact .inr ⟨z, rfl, bind_eq_error_iff.2 (.inl tail)⟩

end Traversal

/-! ## Values that may be missing -/

section Optional

end Optional

end QuoteProver
