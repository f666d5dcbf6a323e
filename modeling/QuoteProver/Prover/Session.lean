import QuoteProver.Log.Entry
import QuoteProver.Prover.Failure

/-!
# Sessions with a service

A `Session` sends requests and waits.  What happens around it is a list of `Moment`s, given
beforehand: ticks of the clock, answers and the caller's wish to give up.  A watchful wait ends at
the first moment at which the caller has given up, whatever else happens at that moment; any other
wait goes on.  The state after a session shows what was sent, heard and
logged.
-/

namespace QuoteProver.Prover

/-- What happens at one point in time; everything in it happens at once. -/
structure Moment (A : Type) where
  time : UInt64 := 0
  cancelled : Bool := false
  ticked : Bool := false
  answer : Option A := none

/-- Where a session stands. -/
structure Scene (Q A : Type) where
  moments : List (Moment A) := []
  time : UInt64 := 0
  /-- Whether the caller has given up. -/
  cancelled : Bool := false
  sent : List Q := []
  /-- The answers to them so far. -/
  heard : List A := []
  log : List Log.Entry := []

/-- Why a session has no result. -/
inductive Halt where
  | failed (failure : Failure)
  /-- It is still waiting when nothing more happens. -/
  | waiting
  deriving Repr, DecidableEq

/-- Work that sends requests of type `Q` and gets answers of type `A`. -/
abbrev Session (Q A : Type) := ExceptT Halt (StateM (Scene Q A))

namespace Session

variable {Q A α β : Type}

/-! ## Steps that take no time -/

/-- Ends the session with a failure. -/
def fail (failure : Failure) : Session Q A α := throw (.failed failure)

/-- Goes on with a value or ends the session with a failure. -/
def orFail : Except Failure α → Session Q A α
  | .ok a => pure a
  | .error failure => fail failure

/-- Adds entries to the log. -/
def record (entries : List Log.Entry) : Session Q A Unit :=
  modify fun scene => { scene with log := scene.log ++ entries }

/-- Adds an entry to the log. -/
def note (level : Log.Level) (source message : String) : Session Q A Unit :=
  record [{ level, source, message }]

/-- The time in Unix seconds. -/
def now : Session Q A UInt64 := return (← get).time

/-- Ends a watchful session if the caller has given up. -/
def checkpoint (watchful : Bool) : Session Q A Unit := do
  if watchful && (← get).cancelled then fail .cancelled

/-! ## Waits -/

/-- Where a session stands when a moment has come, with what is to happen afterwards. -/
def after (scene : Scene Q A) (moment : Moment A) (rest : List (Moment A)) : Scene Q A :=
  { scene with
    moments := rest, time := moment.time, cancelled := scene.cancelled || moment.cancelled }

/-- Waits among the given moments for the first one with an event. -/
def awaitAmong (watchful : Bool) (event : Moment A → Option β) (scene : Scene Q A) :
    List (Moment A) → Except Halt β × Scene Q A
  | [] => (.error .waiting, { scene with moments := [] })
  | moment :: rest =>
    let scene := after scene moment rest
    if watchful && scene.cancelled then (.error (.failed .cancelled), scene)
    else match event moment with
      | some found => (.ok found, scene)
      | none => awaitAmong watchful event scene rest

/-- Waits for the first moment with an event. -/
def await (watchful : Bool) (event : Moment A → Option β) : Session Q A β := do
  checkpoint watchful
  fun scene => awaitAmong watchful event scene scene.moments

/-- Waits for a tick of the clock, unless the caller has given up. -/
def awaitTick : Session Q A Unit :=
  await true fun moment => if moment.ticked then some () else none

/-- Waits for an answer. -/
def hear (watchful : Bool) : Session Q A A := do
  let answer ← await watchful (·.answer)
  modify fun scene => { scene with heard := scene.heard ++ [answer] }
  return answer

/-- Sends a request and waits for its answer. -/
def exchange (watchful : Bool) (request : Q) : Session Q A A := do
  checkpoint watchful
  modify fun scene => { scene with sent := scene.sent ++ [request] }
  hear watchful

end Session

end QuoteProver.Prover
