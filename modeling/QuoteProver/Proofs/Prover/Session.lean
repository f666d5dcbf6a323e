import QuoteProver.Prover.Session

/-!
# How sessions run

A session is a function of the scene in which it starts.  The lemmas of this module give its result
and the scene in which it ends, step by step; a wait is described by the moment that comes next.
-/

namespace QuoteProver.Prover.Session

variable {Q A α β : Type}

/-! ## Sequences -/

theorem bind_apply (x : Session Q A α) (f : α → Session Q A β) (scene : Scene Q A) :
    (x >>= f) scene = match x scene with
      | (.ok a, scene) => f a scene
      | (.error halt, scene) => (.error halt, scene) := by
  show (ExceptT.bind x f) scene = _
  simp only [ExceptT.bind, ExceptT.mk, bind, StateT.bind]
  rcases x scene with ⟨_ | _, _⟩ <;> rfl

section Sequence

variable {x : Session Q A α} {scene scene' : Scene Q A}

theorem bind_of_ok {a : α} (h : x scene = (.ok a, scene')) (f : α → Session Q A β) :
    (x >>= f) scene = f a scene' := by
  rw [bind_apply, h]

theorem bind_of_error {halt : Halt} (h : x scene = (.error halt, scene')) (f : α → Session Q A β) :
    (x >>= f) scene = (.error halt, scene') := by
  rw [bind_apply, h]

theorem bind_congr {y : Session Q A α} (h : x scene = y scene') (f : α → Session Q A β) :
    (x >>= f) scene = (y >>= f) scene' := by
  rw [bind_apply, bind_apply, h]

end Sequence

/-! ## Steps that take no time -/

section Steps

variable (scene : Scene Q A)

@[simp] theorem orFail_ok (a : α) : (orFail (.ok a) : Session Q A α) scene = (.ok a, scene) := rfl

@[simp] theorem record_apply (entries : List Log.Entry) :
    record entries scene = (.ok (), { scene with log := scene.log ++ entries }) := rfl

theorem checkpoint_apply (watchful : Bool) :
    checkpoint watchful scene =
      if watchful && scene.cancelled then (.error (.failed .cancelled), scene)
      else (.ok (), scene) := by
  rw [checkpoint, bind_apply]
  show (if watchful && scene.cancelled then fail .cancelled else pure () : Session Q A Unit) scene = _
  split <;> rfl

end Steps

/-! ## Waits -/

section Waits

variable {watchful : Bool} {event : Moment A → Option β} {scene : Scene Q A} {moment : Moment A}
  {rest : List (Moment A)}

theorem await_of_cancelled (h : scene.cancelled = true) :
    await true event scene = (.error (.failed .cancelled), scene) := by
  rw [await, bind_apply, checkpoint_apply, h]
  rfl

theorem await_apply (h : (watchful && scene.cancelled) = false) :
    await watchful event scene = awaitAmong watchful event scene scene.moments := by
  rw [await, bind_apply, checkpoint_apply, h]
  rfl

theorem await_nil (h : (watchful && scene.cancelled) = false) (hm : scene.moments = []) :
    await watchful event scene = (.error .waiting, scene) := by
  rw [await_apply h, hm, awaitAmong, ← hm]

/-- The caller gives up while a watchful wait goes on, whatever else happens at that moment. -/
theorem await_gives_up (h : scene.cancelled = false) (hm : scene.moments = moment :: rest)
    (cancelled : moment.cancelled = true) :
    await true event scene = (.error (.failed .cancelled), after scene moment rest) := by
  rw [await_apply (by simpa using h), hm, awaitAmong]
  simp [after, cancelled]

section Heedless

variable (h : (watchful && (after scene moment rest).cancelled) = false)
  (hm : scene.moments = moment :: rest)

include h in
theorem heedless_before : (watchful && scene.cancelled) = false := by
  revert h
  cases watchful <;> simp +contextual [after]

include h hm

theorem await_found {found : β} (hf : event moment = some found) :
    await watchful event scene = (.ok found, after scene moment rest) := by
  rw [await_apply (heedless_before h), hm, awaitAmong, h, hf]
  rfl

theorem await_skips (hf : event moment = none) :
    await watchful event scene = await watchful event (after scene moment rest) := by
  rw [await_apply (heedless_before h), await_apply h, hm, awaitAmong, h, hf]
  rfl

theorem hear_found {answer : A} (ha : moment.answer = some answer) :
    hear watchful scene =
      (.ok answer, { after scene moment rest with heard := scene.heard ++ [answer] }) :=
  bind_of_ok (await_found h hm ha) _

theorem hear_skips (ha : moment.answer = none) :
    hear watchful scene = hear watchful (after scene moment rest) :=
  bind_congr (await_skips h hm ha) _

end Heedless

theorem awaitTick_found (h : (true && (after scene moment rest).cancelled) = false)
    (hm : scene.moments = moment :: rest) (ht : moment.ticked = true) :
    awaitTick scene = (.ok (), after scene moment rest) :=
  await_found h hm (by simp [ht])

theorem awaitTick_skips (h : (true && (after scene moment rest).cancelled) = false)
    (hm : scene.moments = moment :: rest) (ht : moment.ticked = false) :
    awaitTick scene = awaitTick (after scene moment rest) :=
  await_skips h hm (by simp [ht])

theorem hear_gives_up (h : scene.cancelled = false) (hm : scene.moments = moment :: rest)
    (cancelled : moment.cancelled = true) :
    hear true scene = (.error (.failed .cancelled), after scene moment rest) :=
  bind_of_error (await_gives_up h hm cancelled) _

theorem hear_nil (h : (watchful && scene.cancelled) = false) (hm : scene.moments = []) :
    hear watchful scene = (.error .waiting, scene) :=
  bind_of_error (await_nil h hm) _

end Waits

theorem exchange_apply {watchful : Bool} {scene : Scene Q A}
    (h : (watchful && scene.cancelled) = false) (request : Q) :
    exchange watchful request scene =
      hear watchful { scene with sent := scene.sent ++ [request] } := by
  rw [exchange, bind_apply, checkpoint_apply, h]
  rfl

end QuoteProver.Prover.Session
