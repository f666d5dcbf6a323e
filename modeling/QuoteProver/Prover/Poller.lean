import QuoteProver.Prover.Session

/-!
# Polling

A `Machine` says how to ask for the status of a remote job and what a status means.  `Poller.run`
asks once a tick until the machine is ready or fails, the caller gives up, or too many questions
went unanswered; an answered question does not make up for an unanswered one.
-/

namespace QuoteProver.Prover

/-! ## Budgets -/

/-- The number of failed questions, and the number at which polling ends. -/
structure Budget where
  failures : Nat := 0
  max : Nat
  deriving Repr, DecidableEq

namespace Budget

/-- A budget with one more failed question. -/
def spend (b : Budget) : Budget := { b with failures := b.failures + 1 }

/-- Whether enough questions have failed to end polling. -/
def isExhausted (b : Budget) : Bool := b.max ≤ b.failures

end Budget

/-! ## Machines -/

/-- What a status means to a machine. -/
inductive Step (μ ω : Type) where
  | pending (state : μ)
  | ready (output : ω)
  | failed (failure : Failure)
  deriving Repr, DecidableEq

/-- A remote job with status of type `σ` and output of type `ω`, seen by an observer that keeps a
state of type `μ`. -/
structure Machine (Q A μ σ ω : Type) where
  question : Except Failure Q
  /-- What is logged when a question is sent. -/
  announce : Q → List Log.Entry := fun _ => []
  /-- Reads the status from an answer. -/
  status : A → Except Failure σ
  /-- What a status means and what is logged about it. -/
  advance : μ → σ → List Log.Entry × Step μ ω

/-! ## Pollers -/

/-- How a job is polled. -/
structure Poller where
  interval : Nat
  maxFailures : Nat
  deriving Repr, DecidableEq

namespace Poller

variable {Q A μ σ ω : Type}

/-- The number of failed questions that ends polling unless set. -/
def defaultMaxFailures : Nat := 3

/-- A poller that asks every so many milliseconds, at most once in each. -/
def every (milliseconds : Nat) : Poller := ⟨max milliseconds 1, defaultMaxFailures⟩

/-- Sets the number of failed questions that ends polling. -/
def withMaxFailures (p : Poller) (n : Nat) : Poller := { p with maxFailures := max n 1 }

/-- What is logged about a failed question that is not the last one. -/
def retrying (failure : Failure) : Log.Entry :=
  { level := .warn, source := "zkdcap::prover::poll",
    message := "status fetch failed, retrying: " ++ failure.message }

/-- Asks for the status, unless the caller has given up. -/
def ask (machine : Machine Q A μ σ ω) : Session Q A (Except Failure σ) := do
  Session.checkpoint true
  match machine.question with
  | .error failure => return .error failure
  | .ok question =>
    Session.record (machine.announce question)
    return machine.status (← Session.exchange true question)

/-- Ends polling or goes on with it after a question, where `again` polls with the budget and in the
state that are left. -/
def settle (machine : Machine Q A μ σ ω) (again : Budget → μ → Session Q A ω) (budget : Budget)
    (state : μ) : Except Failure σ → Session Q A ω
  | .ok status => do
    let (entries, step) := machine.advance state status
    Session.record entries
    match step with
    | .pending state => again budget state
    | .ready output => return output
    | .failed failure => Session.fail failure
  | .error failure => do
    let budget := budget.spend
    if budget.isExhausted then Session.fail failure
    else
      Session.record [retrying failure]
      again budget state

/-- Polls for at most `fuel` ticks. -/
def rounds (machine : Machine Q A μ σ ω) : (fuel : Nat) → Budget → μ → Session Q A ω
  | 0, _, _ => throw .waiting
  | fuel + 1, budget, state => do
    Session.awaitTick
    settle machine (rounds machine fuel) budget state (← ask machine)

/-- Polls a job.  A round takes a moment for its tick, so there are no more rounds than moments. -/
def run (p : Poller) (machine : Machine Q A μ σ ω) (state : μ) : Session Q A ω := do
  rounds machine ((← get).moments.length + 1) { max := p.maxFailures } state

end Poller

end QuoteProver.Prover
