import QuoteProver.Proofs.Prover.Session
import QuoteProver.Prover.Poller

/-!
# What polling comes to

While the caller does not give up, the moments that come decide which questions are put and what
comes of each of them (`Machine.replies`).  `Machine.verdict` says which of these ends polling: the
first status that the machine does not take as pending, or the failure that uses up the limit,
counted over all questions so far.  `run_ends_at_first_verdict` says that polling follows this to
the letter, also when the caller gives up at some moment.
-/

namespace QuoteProver.Prover

variable {Q A μ σ ω : Type}

/-- What came of a question. -/
structure Reply (A : Type) where
  /-- The answer, or why the question could not be put. -/
  answer : Except Failure A
  time : UInt64
  rest : List (Moment A)

/-- The number of questions without a status. -/
def failuresIn (fetched : List (Except Failure σ)) : Nat :=
  fetched.countP fun | .ok _ => false | .error _ => true

namespace Machine

variable (machine : Machine Q A μ σ ω)

/-! ## Questions and replies -/

/-- What a moment changes: whether a question is open after it, and what has come of one.  A tick
puts a question and an answer closes it. -/
def take (asking : Bool) (moment : Moment A) : Bool × Option (Except Failure A) :=
  if asking then
    match moment.answer with
    | some answer => (false, some (.ok answer))
    | none => (true, none)
  else if moment.ticked then
    match machine.question with
    | .ok _ => (true, none)
    | .error failure => (false, some (.error failure))
  else (false, none)

/-- Once something has come of a question, no question is open. -/
theorem take_eq_some {asking asking' : Bool} {moment : Moment A} {answer : Except Failure A}
    (h : machine.take asking moment = (asking', some answer)) : asking' = false := by
  unfold take at h
  repeat' split at h
  all_goals simp_all

/-- What comes of the questions if polling does not end. -/
def replies : (asking : Bool) → List (Moment A) → List (Reply A)
  | _, [] => []
  | asking, moment :: rest =>
    match machine.take asking moment with
    | (asking, none) => replies asking rest
    | (asking, some answer) => ⟨answer, moment.time, rest⟩ :: replies asking rest

/-- Whether a question is open in the end if polling does not end. -/
def asksAfter : (asking : Bool) → List (Moment A) → Bool
  | asking, [] => asking
  | asking, moment :: rest => asksAfter (machine.take asking moment).1 rest

/-- The status that an answer gives. -/
def outcome (answer : Except Failure A) : Except Failure σ := answer.bind machine.status

/-- What was fetched with some replies. -/
abbrev fetched (replies : List (Reply A)) : List (Except Failure σ) :=
  replies.map fun reply => machine.outcome reply.answer

/-! ## Verdicts -/

/-- The state of the observer after one more status or failure. -/
def stateWith (state : μ) : Except Failure σ → μ
  | .ok status => match (machine.advance state status).2 with
    | .pending state => state
    | _ => state
  | .error _ => state

/-- The state of the observer after what was fetched. -/
def stateAfter (state : μ) (fetched : List (Except Failure σ)) : μ :=
  fetched.foldl machine.stateWith state

/-- The result if polling ends with what was fetched next: with the first status that is not
pending, or with the failure that makes the number of failures reach the limit. -/
def verdict (limit : Nat) (state : μ) (fetched : List (Except Failure σ)) :
    Except Failure σ → Option (Except Failure ω)
  | .ok status => match (machine.advance (machine.stateAfter state fetched) status).2 with
    | .pending _ => none
    | .ready output => some (.ok output)
    | .failed failure => some (.error failure)
  | .error failure => if failuresIn fetched + 1 = limit then some (.error failure) else none

/-- Polling has not ended when `more` has been fetched after what was fetched before. -/
def Undecided (limit : Nat) (state : μ) :
    (fetched more : List (Except Failure σ)) → Prop
  | _, [] => True
  | fetched, next :: more =>
    machine.verdict limit state fetched next = none ∧ Undecided limit state (fetched ++ [next]) more

/-! ## What is sent and logged -/

/-- The question as often as it is put; one that cannot be put is not sent. -/
def questions (n : Nat) : List Q :=
  match machine.question with
  | .ok question => List.replicate n question
  | .error _ => []

/-- What is logged when a question is put. -/
def announced : List Log.Entry :=
  match machine.question with
  | .ok question => machine.announce question
  | .error _ => []

/-- What is logged about what was fetched next. -/
def entriesOf (limit : Nat) (state : μ) (fetched : List (Except Failure σ)) :
    Except Failure σ → List Log.Entry
  | .ok status => (machine.advance (machine.stateAfter state fetched) status).1
  | .error failure =>
    if failuresIn fetched + 1 = limit then [] else [Poller.retrying failure]

/-- What is logged while `more` is fetched after what was fetched before. -/
def logOf (limit : Nat) (state : μ) :
    (fetched more : List (Except Failure σ)) → List Log.Entry
  | _, [] => []
  | fetched, next :: more =>
    machine.announced ++ machine.entriesOf limit state fetched next ++
      logOf limit state (fetched ++ [next]) more

/-- The scene after some replies, and with a question open or not. -/
def sceneAfter (limit : Nat) (state : μ) (scene : Scene Q A) (replied : List (Except Failure A))
    (asking : Bool) (time : UInt64) (moments : List (Moment A)) : Scene Q A :=
  { scene with
    moments, time
    sent := scene.sent ++ machine.questions (replied.length + asking.toNat)
    heard := scene.heard ++ replied.filterMap Except.toOption
    log := scene.log ++ machine.logOf limit state [] (replied.map machine.outcome) ++
      if asking then machine.announced else [] }

end Machine

/-! ## Replies and verdicts -/

section Replies

variable (machine : Machine Q A μ σ ω)

namespace Machine

/-- A question that can be put is answered each time. -/
theorem replies_of_put {question : Q} (put : machine.question = .ok question) (asking : Bool)
    (moments : List (Moment A)) :
    ∃ heard : List A, (machine.replies asking moments).map Reply.answer = heard.map .ok := by
  induction moments generalizing asking with
  | nil => exact ⟨[], rfl⟩
  | cons moment rest ih =>
    rw [replies]
    rcases ht : machine.take asking moment with ⟨asking', _ | answer⟩
    · exact ih asking'
    · obtain ⟨heard, h⟩ := ih asking'
      obtain ⟨found, rfl⟩ : ∃ found, answer = .ok found := by
        unfold take at ht
        repeat' split at ht
        all_goals simp_all
        exact ⟨_, ht.2.symm⟩
      exact ⟨found :: heard, by simp [h]⟩

/-- A question that cannot be put fails each time, and is never open. -/
theorem replies_of_unput {failure : Failure} (unput : machine.question = .error failure)
    (moments : List (Moment A)) :
    (∀ reply ∈ machine.replies false moments, reply.answer = .error failure) ∧
      machine.asksAfter false moments = false := by
  induction moments with
  | nil => simp [replies, asksAfter]
  | cons moment rest ih =>
    rw [replies, asksAfter]
    cases ht : moment.ticked with
    | true => simpa [take, ht, unput] using ih
    | false => simpa [take, ht] using ih

/-- Only a status makes polling succeed, never a failure. -/
theorem verdict_eq_ok_iff {limit : Nat} {state : μ} {fetched : List (Except Failure σ)}
    {next : Except Failure σ} {output : ω} :
    machine.verdict limit state fetched next = some (.ok output) ↔
      ∃ status, next = .ok status ∧
        machine.verdict limit state fetched (.ok status) = some (.ok output) := by
  constructor
  · intro h
    cases next with
    | ok status => exact ⟨status, rfl, h⟩
    | error failure =>
      simp only [verdict] at h
      split at h
      · cases h
      · cases h
  · rintro ⟨status, rfl, h⟩
    exact h

end Machine

end Replies

/-! ## One reply more -/

section Append

variable (machine : Machine Q A μ σ ω) (limit : Nat) (state : μ)

@[simp] theorem failuresIn_append_ok (fetched : List (Except Failure σ)) (status : σ) :
    failuresIn (fetched ++ [.ok status]) = failuresIn fetched := by
  simp [failuresIn]

@[simp] theorem failuresIn_append_error (fetched : List (Except Failure σ)) (failure : Failure) :
    failuresIn (fetched ++ [.error failure]) = failuresIn fetched + 1 := by
  simp [failuresIn]

namespace Machine

@[simp] theorem questions_zero : machine.questions 0 = [] := by
  unfold questions
  cases machine.question <;> rfl

/-- Nothing has been asked or answered yet. -/
@[simp] theorem sceneAfter_nil (scene : Scene Q A) :
    machine.sceneAfter limit state scene [] false scene.time scene.moments = scene := by
  simp [sceneAfter, logOf]

@[simp] theorem stateAfter_append (fetched : List (Except Failure σ)) (next : Except Failure σ) :
    machine.stateAfter state (fetched ++ [next]) =
      machine.stateWith (machine.stateAfter state fetched) next := by
  simp [stateAfter]

theorem logOf_append (fetched more : List (Except Failure σ)) (next : Except Failure σ) :
    machine.logOf limit state fetched (more ++ [next]) =
      machine.logOf limit state fetched more ++ (machine.announced ++
        machine.entriesOf limit state (fetched ++ more) next) := by
  induction more generalizing fetched with
  | nil => simp [logOf]
  | cons first more ih => simp [logOf, ih]

/-- An undecided failure leaves failures to spare. -/
theorem failuresIn_append_lt {fetched : List (Except Failure σ)} {next : Except Failure σ}
    (h : failuresIn fetched < limit) (undecided : machine.verdict limit state fetched next = none) :
    failuresIn (fetched ++ [next]) < limit := by
  cases next with
  | ok status => simpa using h
  | error failure =>
    have : failuresIn fetched + 1 ≠ limit := by
      intro last
      simp [verdict, last] at undecided
    simp
    omega

end Machine

end Append

/-! ## One question -/

namespace Poller

/-- The number of failures with which polling ends. -/
def limit (p : Poller) : Nat := max p.maxFailures 1

variable (p : Poller) (machine : Machine Q A μ σ ω) (state : μ)

/-- Where polling stands after what was fetched. -/
def again (fuel : Nat) (fetched : List (Except Failure σ)) : Session Q A ω :=
  rounds machine fuel { failures := failuresIn fetched, max := p.maxFailures }
    (machine.stateAfter state fetched)

theorem settle_apply {fetched : List (Except Failure σ)} (h : failuresIn fetched < p.limit)
    (fuel : Nat) (next : Except Failure σ) (scene : Scene Q A) :
    settle machine (rounds machine fuel) { failures := failuresIn fetched, max := p.maxFailures }
        (machine.stateAfter state fetched) next scene =
      let scene := { scene with
        log := scene.log ++ machine.entriesOf p.limit state fetched next }
      match machine.verdict p.limit state fetched next with
      | some result => (result.mapError .failed, scene)
      | none => again p machine state fuel (fetched ++ [next]) scene := by
  cases next with
  | ok status =>
    simp only [settle, Machine.entriesOf, Machine.verdict, again, failuresIn_append_ok,
      Machine.stateAfter_append, Machine.stateWith]
    rw [Session.bind_of_ok (Session.record_apply ..)]
    cases (machine.advance (machine.stateAfter state fetched) status).2 <;> rfl
  | error failure =>
    have exhausted : p.maxFailures ≤ failuresIn fetched + 1 ↔ failuresIn fetched + 1 = p.limit := by
      unfold limit at h ⊢
      omega
    simp only [settle, Budget.isExhausted, Budget.spend, Machine.entriesOf, Machine.verdict, again,
      failuresIn_append_error, Machine.stateAfter_append, Machine.stateWith, decide_eq_true_eq,
      exhausted]
    split
    · rw [List.append_nil]
      rfl
    · exact Session.bind_of_ok (Session.record_apply ..) _

/-! ## One moment -/

/-- What is left of polling after some replies, with a question open or not. -/
def resumed (fuel : Nat) (replied : List (Except Failure A)) (asking : Bool) : Session Q A ω :=
  let fetched := replied.map machine.outcome
  if asking then do
    let answer ← Session.hear true
    settle machine (rounds machine fuel) { failures := failuresIn fetched, max := p.maxFailures }
      (machine.stateAfter state fetched) (machine.status answer)
  else again p machine state (fuel + 1) fetched

section Moments

variable {scene : Scene Q A} {replied : List (Except Failure A)} {asking : Bool} {time : UInt64}
  {moment : Moment A} {rest : List (Moment A)}

/-- Polling ends when the caller has given up. -/
theorem again_of_cancelled (h : scene.cancelled = true) (fuel : Nat)
    (fetched : List (Except Failure σ)) :
    again p machine state (fuel + 1) fetched scene = (.error (.failed .cancelled), scene) :=
  Session.bind_of_error (Session.await_of_cancelled h) _

theorem ask_of_cancelled (h : scene.cancelled = true) :
    ask machine scene = (.error (.failed .cancelled), scene) :=
  Session.bind_of_error (by rw [Session.checkpoint_apply, h]; rfl) _

theorem ask_unput (h : scene.cancelled = false) {failure : Failure}
    (unput : machine.question = .error failure) :
    ask machine scene = (.ok (.error failure), scene) := by
  have passed : Session.checkpoint true scene = (.ok (), scene) := by
    rw [Session.checkpoint_apply, h]
    rfl
  rw [ask, Session.bind_of_ok passed, unput]
  rfl

theorem ask_put (h : scene.cancelled = false) {question : Q}
    (put : machine.question = .ok question) :
    ask machine scene = (machine.status <$> Session.hear true : Session Q A (Except Failure σ))
      { scene with
        sent := scene.sent ++ [question], log := scene.log ++ machine.announce question } := by
  have passed : Session.checkpoint true scene = (.ok (), scene) := by
    rw [Session.checkpoint_apply, h]
    rfl
  rw [ask, Session.bind_of_ok passed, put]
  dsimp only
  rw [Session.bind_of_ok (Session.record_apply ..), Session.bind_apply,
    Session.exchange_apply (by simpa using h), map_eq_pure_bind, Session.bind_apply]

theorem after_sceneAfter (quiet : moment.cancelled = false) :
    Session.after (machine.sceneAfter p.limit state scene replied asking time (moment :: rest))
        moment rest =
      machine.sceneAfter p.limit state scene replied asking moment.time rest := by
  simp [Session.after, Machine.sceneAfter, quiet]

/-- The end of a question: polling has a verdict or goes on. -/
def concluded (fuel : Nat) (replied : List (Except Failure A)) (answer : Except Failure A)
    (scene : Scene Q A) : Except Halt ω × Scene Q A :=
  match machine.verdict p.limit state (replied.map machine.outcome) (machine.outcome answer) with
  | some result => (result.mapError .failed, scene)
  | none => resumed p machine state fuel (replied ++ [answer]) false scene

/-- The scene after an answer, once it has been logged. -/
theorem sceneAfter_append_ok (answer : A) :
    machine.sceneAfter p.limit state scene (replied ++ [.ok answer]) false time rest =
      let before := machine.sceneAfter p.limit state scene replied true time rest
      { before with
        heard := before.heard ++ [answer]
        log := before.log ++ machine.entriesOf p.limit state (replied.map machine.outcome)
          (machine.status answer) } := by
  have read : machine.outcome (.ok answer) = machine.status answer := rfl
  simp [Machine.sceneAfter, Machine.logOf_append, Except.toOption, read]

/-- The scene after a question that could not be put. -/
theorem sceneAfter_append_error {failure : Failure} (unput : machine.question = .error failure) :
    machine.sceneAfter p.limit state scene (replied ++ [.error failure]) false time rest =
      let before := machine.sceneAfter p.limit state scene replied false time rest
      { before with
        log := before.log ++ machine.entriesOf p.limit state (replied.map machine.outcome)
          (.error failure) } := by
  have read : machine.outcome (.error failure) = .error failure := rfl
  simp [Machine.sceneAfter, Machine.logOf_append, Except.toOption, read, Machine.questions,
    Machine.announced, unput]

/-- The scene after a question has been put. -/
theorem sceneAfter_true {question : Q} (put : machine.question = .ok question) :
    machine.sceneAfter p.limit state scene replied true time rest =
      let before := machine.sceneAfter p.limit state scene replied false time rest
      { before with
        sent := before.sent ++ [question], log := before.log ++ machine.announce question } := by
  simp [Machine.sceneAfter, Machine.questions, Machine.announced, put, List.replicate_succ']

theorem settle_eq_concluded (fuel : Nat) (answer : Except Failure A)
    (spare : failuresIn (replied.map machine.outcome) < p.limit) (scene : Scene Q A) :
    settle machine (rounds machine (fuel + 1))
        { failures := failuresIn (replied.map machine.outcome), max := p.maxFailures }
        (machine.stateAfter state (replied.map machine.outcome)) (machine.outcome answer) scene =
      concluded p machine state fuel replied answer { scene with
        log := scene.log ++ machine.entriesOf p.limit state (replied.map machine.outcome)
          (machine.outcome answer) } := by
  rw [settle_apply p machine state spare, concluded]
  simp only [resumed, List.map_append, List.map_cons, List.map_nil]
  rfl

section Quiet

variable (heeded : scene.cancelled = false) (quiet : moment.cancelled = false)
  (spare : failuresIn (replied.map machine.outcome) < p.limit) (fuel : Nat)

include heeded quiet

theorem cancelled_after : (true && (Session.after
    (machine.sceneAfter p.limit state scene replied asking time (moment :: rest)) moment
    rest).cancelled) = false := by
  simp [Session.after, Machine.sceneAfter, heeded, quiet]

theorem resumed_unanswered (ha : moment.answer = none) :
    resumed p machine state fuel replied true
        (machine.sceneAfter p.limit state scene replied true time (moment :: rest)) =
      resumed p machine state fuel replied true
        (machine.sceneAfter p.limit state scene replied true moment.time rest) := by
  rw [← after_sceneAfter p machine state quiet]
  exact Session.bind_congr
    (Session.hear_skips (cancelled_after p machine state heeded quiet) rfl ha) _

theorem resumed_unticked (ht : moment.ticked = false) :
    resumed p machine state fuel replied false
        (machine.sceneAfter p.limit state scene replied false time (moment :: rest)) =
      resumed p machine state fuel replied false
        (machine.sceneAfter p.limit state scene replied false moment.time rest) := by
  rw [← after_sceneAfter p machine state quiet]
  exact Session.bind_congr
    (Session.awaitTick_skips (cancelled_after p machine state heeded quiet) rfl ht) _

/-- A tick leads to a question. -/
theorem resumed_ticked (ht : moment.ticked = true) :
    resumed p machine state (fuel + 1) replied false
        (machine.sceneAfter p.limit state scene replied false time (moment :: rest)) =
      (ask machine >>= settle machine (rounds machine (fuel + 1))
        { failures := failuresIn (replied.map machine.outcome), max := p.maxFailures }
        (machine.stateAfter state (replied.map machine.outcome)))
        (machine.sceneAfter p.limit state scene replied false moment.time rest) := by
  rw [← after_sceneAfter p machine state quiet]
  exact Session.bind_of_ok
    (Session.awaitTick_found (cancelled_after p machine state heeded quiet) rfl ht) _

theorem resumed_put (ht : moment.ticked = true) {question : Q}
    (put : machine.question = .ok question) :
    resumed p machine state (fuel + 1) replied false
        (machine.sceneAfter p.limit state scene replied false time (moment :: rest)) =
      resumed p machine state (fuel + 1) replied true
        (machine.sceneAfter p.limit state scene replied true moment.time rest) := by
  rw [resumed_ticked p machine state heeded quiet fuel ht, sceneAfter_true p machine state put]
  refine (Session.bind_congr (ask_put machine (by exact heeded) put) _).trans ?_
  rw [bind_map_left]
  rfl

include spare

theorem resumed_unput (ht : moment.ticked = true) {failure : Failure}
    (unput : machine.question = .error failure) :
    resumed p machine state (fuel + 1) replied false
        (machine.sceneAfter p.limit state scene replied false time (moment :: rest)) =
      concluded p machine state fuel replied (.error failure) (machine.sceneAfter p.limit state
        scene (replied ++ [.error failure]) false moment.time rest) := by
  rw [resumed_ticked p machine state heeded quiet fuel ht,
    sceneAfter_append_error p machine state unput]
  refine (Session.bind_of_ok (ask_unput machine (by exact heeded) unput) _).trans ?_
  exact settle_eq_concluded p machine state fuel (.error failure) spare _

theorem resumed_answered {answer : A} (ha : moment.answer = some answer) :
    resumed p machine state (fuel + 1) replied true
        (machine.sceneAfter p.limit state scene replied true time (moment :: rest)) =
      concluded p machine state fuel replied (.ok answer)
        (machine.sceneAfter p.limit state scene (replied ++ [.ok answer]) false moment.time rest) := by
  rw [sceneAfter_append_ok, ← after_sceneAfter p machine state quiet]
  refine (Session.bind_of_ok
    (Session.hear_found (cancelled_after p machine state heeded quiet) rfl ha) _).trans ?_
  exact settle_eq_concluded p machine state fuel (.ok answer) spare _

/-- A moment at which the caller does not give up. -/
theorem resumed_cons :
    resumed p machine state (fuel + 1) replied asking
        (machine.sceneAfter p.limit state scene replied asking time (moment :: rest)) =
      match machine.take asking moment with
      | (asking, none) => resumed p machine state (fuel + 1) replied asking
          (machine.sceneAfter p.limit state scene replied asking moment.time rest)
      | (_, some answer) => concluded p machine state fuel replied answer
          (machine.sceneAfter p.limit state scene (replied ++ [answer]) false moment.time rest) := by
  cases asking with
  | true =>
    cases ha : moment.answer with
    | some answer =>
      rw [resumed_answered p machine state heeded quiet spare fuel ha]
      simp [Machine.take, ha]
    | none =>
      rw [resumed_unanswered p machine state heeded quiet _ ha]
      simp [Machine.take, ha]
  | false =>
    cases ht : moment.ticked with
    | true =>
      cases hq : machine.question with
      | ok question =>
        rw [resumed_put p machine state heeded quiet fuel ht hq]
        simp [Machine.take, ht, hq]
      | error failure =>
        rw [resumed_unput p machine state heeded quiet spare fuel ht hq]
        simp [Machine.take, ht, hq]
    | false =>
      rw [resumed_unticked p machine state heeded quiet _ ht]
      simp [Machine.take, ht]

end Quiet

theorem resumed_nil (heeded : scene.cancelled = false) (fuel : Nat) :
    resumed p machine state fuel replied asking
        (machine.sceneAfter p.limit state scene replied asking time []) =
      (.error .waiting, machine.sceneAfter p.limit state scene replied asking time []) := by
  cases asking with
  | true => exact Session.bind_of_error (Session.hear_nil (by exact heeded) rfl) _
  | false => exact Session.bind_of_error (Session.await_nil (by exact heeded) rfl) _

/-- The caller gives up, whatever else happens at that moment. -/
theorem resumed_gives_up (heeded : scene.cancelled = false) (cancelled : moment.cancelled = true)
    (fuel : Nat) :
    resumed p machine state fuel replied asking
        (machine.sceneAfter p.limit state scene replied asking time (moment :: rest)) =
      (.error (.failed .cancelled),
        { machine.sceneAfter p.limit state scene replied asking moment.time rest with
          cancelled := true }) := by
  have after : Session.after
      (machine.sceneAfter p.limit state scene replied asking time (moment :: rest)) moment rest =
        { machine.sceneAfter p.limit state scene replied asking moment.time rest with
          cancelled := true } := by
    simp [Session.after, Machine.sceneAfter, cancelled]
  rw [← after]
  cases asking with
  | true => exact Session.bind_of_error (Session.hear_gives_up (by exact heeded) rfl cancelled) _
  | false => exact Session.bind_of_error (Session.await_gives_up (by exact heeded) rfl cancelled) _

end Moments

/-! ## A whole run -/

/-- The time when some moments have come. -/
def timeAfter (time : UInt64) (moments : List (Moment A)) : UInt64 :=
  moments.foldl (fun _ moment => moment.time) time

section Run

variable {scene : Scene Q A} (heeded : scene.cancelled = false) {quiet : List (Moment A)}
  (later : List (Moment A))

include heeded

/-- The first reply with a verdict ends polling. -/
theorem resumed_of_verdict (hq : ∀ moment ∈ quiet, moment.cancelled = false)
    {replied : List (Except Failure A)} {asking : Bool} {time : UInt64}
    {early late : List (Reply A)} {last : Reply A} {result : Except Failure ω} {fuel : Nat}
    (hfuel : quiet.length ≤ fuel)
    (spare : failuresIn (replied.map machine.outcome) < p.limit)
    (replies : machine.replies asking quiet = early ++ last :: late)
    (undecided : machine.Undecided p.limit state (replied.map machine.outcome)
      (machine.fetched early))
    (verdict : machine.verdict p.limit state (replied.map machine.outcome ++ machine.fetched early)
      (machine.outcome last.answer) = some result) :
    resumed p machine state fuel replied asking
        (machine.sceneAfter p.limit state scene replied asking time (quiet ++ later)) =
      (result.mapError .failed, machine.sceneAfter p.limit state scene
        (replied ++ early.map Reply.answer ++ [last.answer]) false last.time (last.rest ++ later)) := by
  induction quiet generalizing replied asking time early fuel with
  | nil => simp [Machine.replies] at replies
  | cons moment quiet ih =>
    obtain ⟨fuel, rfl⟩ : ∃ n, fuel = n + 1 := ⟨fuel - 1, by simp at hfuel; omega⟩
    have hfuel : quiet.length ≤ fuel := by simpa using hfuel
    have hm : moment.cancelled = false := hq moment (by simp)
    replace hq : ∀ moment ∈ quiet, moment.cancelled = false := fun m h => hq m (by simp [h])
    rw [List.cons_append, resumed_cons p machine state heeded hm spare fuel]
    rw [Machine.replies] at replies
    rcases ht : machine.take asking moment with ⟨asking', _ | answer⟩
    · rw [ht] at replies
      exact ih hq (by omega) spare replies undecided verdict
    · obtain rfl := machine.take_eq_some ht
      rw [ht] at replies
      cases early with
      | nil =>
        obtain ⟨rfl, -⟩ := List.cons.inj replies
        simp only [List.map_nil, List.append_nil] at verdict ⊢
        simp only [concluded, verdict]
      | cons first early =>
        obtain ⟨rfl, tail⟩ := List.cons.inj replies
        obtain ⟨going, undecided⟩ := undecided
        have spare : failuresIn ((replied ++ [answer]).map machine.outcome) < p.limit := by
          simpa using machine.failuresIn_append_lt _ _ spare going
        simp only [concluded, going]
        refine (ih hq hfuel spare tail (by simpa using undecided) (by simpa using verdict)).trans ?_
        simp

/-- Polling goes on while no reply has a verdict, and ends as it would after that. -/
theorem resumed_of_undecided (hq : ∀ moment ∈ quiet, moment.cancelled = false)
    {replied : List (Except Failure A)} {asking : Bool} {time : UInt64} {fuel : Nat}
    {ending : Except Halt ω × Scene Q A} (hfuel : quiet.length ≤ fuel)
    (spare : failuresIn (replied.map machine.outcome) < p.limit)
    (undecided : machine.Undecided p.limit state (replied.map machine.outcome)
      (machine.fetched (machine.replies asking quiet)))
    (ends : ∀ fuel, resumed p machine state fuel
        (replied ++ (machine.replies asking quiet).map Reply.answer)
        (machine.asksAfter asking quiet)
        (machine.sceneAfter p.limit state scene
          (replied ++ (machine.replies asking quiet).map Reply.answer)
          (machine.asksAfter asking quiet) (timeAfter time quiet) later) = ending) :
    resumed p machine state fuel replied asking
        (machine.sceneAfter p.limit state scene replied asking time (quiet ++ later)) =
      ending := by
  induction quiet generalizing replied asking time fuel with
  | nil => simpa [Machine.replies, Machine.asksAfter, timeAfter] using ends fuel
  | cons moment quiet ih =>
    obtain ⟨fuel, rfl⟩ : ∃ n, fuel = n + 1 := ⟨fuel - 1, by simp at hfuel; omega⟩
    have hfuel : quiet.length ≤ fuel := by simpa using hfuel
    have hm : moment.cancelled = false := hq moment (by simp)
    replace hq : ∀ moment ∈ quiet, moment.cancelled = false := fun m h => hq m (by simp [h])
    rw [List.cons_append, resumed_cons p machine state heeded hm spare fuel]
    rw [Machine.replies] at undecided ends
    rw [Machine.asksAfter] at ends
    rcases ht : machine.take asking moment with ⟨asking', _ | answer⟩
    · rw [ht] at undecided ends
      exact ih hq (by omega) spare undecided ends
    · obtain rfl := machine.take_eq_some ht
      rw [ht] at undecided ends
      obtain ⟨going, undecided⟩ := undecided
      have spare : failuresIn ((replied ++ [answer]).map machine.outcome) < p.limit := by
        simpa using machine.failuresIn_append_lt _ _ spare going
      simp only [concluded, going]
      exact ih hq hfuel spare (by simpa using undecided) (by simpa [timeAfter] using ends)

end Run

theorem run_eq_resumed (scene : Scene Q A) :
    run p machine state scene =
      resumed p machine state scene.moments.length [] false
        (machine.sceneAfter p.limit state scene [] false scene.time scene.moments) := by
  rw [Machine.sceneAfter_nil]
  rfl

theorem spare_nil : failuresIn (([] : List (Except Failure A)).map machine.outcome) < p.limit := by
  show 0 < max p.maxFailures 1
  omega

theorem run_of_cancelled {scene : Scene Q A} (h : scene.cancelled = true) :
    run p machine state scene = (.error (.failed .cancelled), scene) :=
  again_of_cancelled p machine state h scene.moments.length []

section Run

variable {scene : Scene Q A} {quiet later : List (Moment A)} (heeded : scene.cancelled = false)
  (hm : scene.moments = quiet ++ later) (hq : ∀ moment ∈ quiet, moment.cancelled = false)

include heeded hm hq

theorem run_of_verdict {early late : List (Reply A)} {last : Reply A} {result : Except Failure ω}
    (replies : machine.replies false quiet = early ++ last :: late)
    (undecided : machine.Undecided p.limit state [] (machine.fetched early))
    (verdict : machine.verdict p.limit state (machine.fetched early)
      (machine.outcome last.answer) = some result) :
    run p machine state scene = (result.mapError .failed,
      machine.sceneAfter p.limit state scene (early.map Reply.answer ++ [last.answer]) false
        last.time (last.rest ++ later)) := by
  rw [run_eq_resumed, hm]
  exact resumed_of_verdict p machine state heeded later hq (by simp) (spare_nil p machine) replies
    undecided verdict

variable (undecided :
  machine.Undecided p.limit state [] (machine.fetched (machine.replies false quiet)))

include undecided

theorem run_of_undecided (ended : later = []) :
    run p machine state scene = (.error .waiting,
      machine.sceneAfter p.limit state scene ((machine.replies false quiet).map Reply.answer)
        (machine.asksAfter false quiet) (timeAfter scene.time quiet) []) := by
  subst ended
  rw [run_eq_resumed, hm]
  exact resumed_of_undecided p machine state heeded [] hq (by simp) (spare_nil p machine) undecided
    fun fuel => resumed_nil p machine state heeded fuel

theorem run_gives_up {moment : Moment A} {rest : List (Moment A)} (next : later = moment :: rest)
    (cancelled : moment.cancelled = true) :
    run p machine state scene = (.error (.failed .cancelled),
      { machine.sceneAfter p.limit state scene ((machine.replies false quiet).map Reply.answer)
          (machine.asksAfter false quiet) moment.time rest with cancelled := true }) := by
  subst next
  rw [run_eq_resumed, hm]
  exact resumed_of_undecided p machine state heeded (moment :: rest) hq (by simp)
    (spare_nil p machine) undecided fun fuel => resumed_gives_up p machine state heeded cancelled fuel

end Run

/-- Polling ends with the first verdict: it returns that verdict, has put one question for each reply
up to it and has logged those replies only.  Without a verdict it goes on, until the caller gives up;
then a tick or an answer at the same moment counts for nothing.  It does not begin when the caller
has given up already. -/
theorem run_ends_at_first_verdict (p : Poller) (machine : Machine Q A μ σ ω) (state : μ)
    (scene : Scene Q A) :
    ((every p.interval).limit = 3 ∧ ∀ n, (p.withMaxFailures n).limit = max n 1) ∧
    (scene.cancelled = true →
      run p machine state scene = (.error (.failed .cancelled), scene) ∧
      ask machine scene = (.error (.failed .cancelled), scene)) ∧
    (scene.cancelled = false → ∀ quiet later : List (Moment A), scene.moments = quiet ++ later →
      (∀ moment ∈ quiet, moment.cancelled = false) →
      (∀ (early : List (Reply A)) (last : Reply A) (late : List (Reply A))
        (result : Except Failure ω),
        machine.replies false quiet = early ++ last :: late →
        machine.Undecided p.limit state [] (machine.fetched early) →
        machine.verdict p.limit state (machine.fetched early) (machine.outcome last.answer) =
          some result →
        run p machine state scene = (result.mapError .failed,
          machine.sceneAfter p.limit state scene (early.map Reply.answer ++ [last.answer]) false
            last.time (last.rest ++ later))) ∧
      (machine.Undecided p.limit state [] (machine.fetched (machine.replies false quiet)) →
        (later = [] → run p machine state scene = (.error .waiting,
          machine.sceneAfter p.limit state scene ((machine.replies false quiet).map Reply.answer)
            (machine.asksAfter false quiet) (timeAfter scene.time quiet) [])) ∧
        (∀ (moment : Moment A) (rest : List (Moment A)), later = moment :: rest →
          moment.cancelled = true → run p machine state scene = (.error (.failed .cancelled),
            { machine.sceneAfter p.limit state scene
                ((machine.replies false quiet).map Reply.answer) (machine.asksAfter false quiet)
                moment.time rest with cancelled := true })))) := by
  refine ⟨⟨rfl, fun n => by simp [limit, withMaxFailures]⟩, fun h => ⟨?_, ?_⟩, ?_⟩
  · exact run_of_cancelled p machine state h
  · exact ask_of_cancelled machine h
  · intro heeded quiet later hm hq
    refine ⟨fun early last late result replies undecided verdict => ?_, fun undecided => ⟨?_, ?_⟩⟩
    · exact run_of_verdict p machine state heeded hm hq replies undecided verdict
    · exact run_of_undecided p machine state heeded hm hq undecided
    · exact fun moment rest => run_gives_up p machine state heeded hm hq undecided

-- Three failures end polling, with a pending status between them.
example :
    let machine : Machine Unit (Option Bool) Unit Bool Unit :=
      { question := .ok (), status := fun answer => answer.elim (.error .transport) .ok
        advance := fun _ done => ([], if done then .ready () else .pending ()) }
    let round (answer : Option Bool) : List (Moment (Option Bool)) :=
      [{ ticked := true }, { answer := some answer }]
    let ran := run (every 1000) machine ()
      { moments := round none ++ round (some false) ++ round none ++ round none ++ round (some true) }
    ran.1 = .error (.failed .transport) ∧ ran.2.sent.length = 4 ∧ ran.2.moments.length = 2 :=
  ⟨rfl, rfl, rfl⟩

end Poller

end QuoteProver.Prover
