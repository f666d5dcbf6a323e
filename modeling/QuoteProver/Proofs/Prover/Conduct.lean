import QuoteProver.Proofs.Except
import QuoteProver.Proofs.Prover.Polling

/-!
# The conduct of sessions

A `Conduct` says which requests are sent, which answers are heard and with which result a session ends,
when the world stands to it as an `Outlook` says.  Conducts are put together step by step: a `Stage`
sends one request and reads the first answer that comes, `Polls` goes on asking, `Given` needs a value
that may be missing, `Timed` looks at the clock, `Returns` ends.  A step that fails is the last one, and
its failure is the result.  `Conduct.AllowsOnly` says that a conduct leaves no choice, which the rules
for the steps carry from the end of a session to its start.
-/

namespace QuoteProver.Prover

variable {Q A α β μ σ ω : Type}

/-! ## Outlooks -/

/-- How the world stands to a session: what is to come, the time, and whether the caller has given
up. -/
structure Outlook (A : Type) where
  moments : List (Moment A)
  time : UInt64
  cancelled : Bool

/-- How the world stands in a scene. -/
def Scene.outlook (scene : Scene Q A) : Outlook A := ⟨scene.moments, scene.time, scene.cancelled⟩

namespace Outlook

/-- How the world stands when a moment has come. -/
def after (o : Outlook A) (moment : Moment A) (rest : List (Moment A)) : Outlook A :=
  ⟨rest, moment.time, o.cancelled || moment.cancelled⟩

/-- No answer is to come. -/
def Silent (o : Outlook A) : Prop := ∀ moment ∈ o.moments, moment.answer = none

/-- The first answer that is to come, and how the world stands when it has come. -/
inductive Brings : Outlook A → A → Outlook A → Prop
  | now {o : Outlook A} {moment : Moment A} {rest : List (Moment A)} {answer : A} :
      o.moments = moment :: rest → moment.answer = some answer →
      Brings o answer (o.after moment rest)
  | later {o o' : Outlook A} {moment : Moment A} {rest : List (Moment A)} {answer : A} :
      o.moments = moment :: rest → moment.answer = none → Brings (o.after moment rest) answer o' →
      Brings o answer o'

theorem Brings.unique {o o₁ o₂ : Outlook A} {answer₁ answer₂ : A} (h₁ : o.Brings answer₁ o₁)
    (h₂ : o.Brings answer₂ o₂) : answer₁ = answer₂ ∧ o₁ = o₂ := by
  induction h₁ with
  | now come₁ answered₁ =>
    cases h₂ with
    | now come₂ answered₂ =>
      obtain ⟨rfl, rfl⟩ := List.cons.inj (come₁.symm.trans come₂)
      exact ⟨Option.some.inj (answered₁.symm.trans answered₂), rfl⟩
    | later come₂ silent₂ _ =>
      obtain ⟨rfl, rfl⟩ := List.cons.inj (come₁.symm.trans come₂)
      cases answered₁.symm.trans silent₂
  | later come₁ silent₁ _ ih =>
    cases h₂ with
    | now come₂ answered₂ =>
      obtain ⟨rfl, rfl⟩ := List.cons.inj (come₁.symm.trans come₂)
      cases answered₂.symm.trans silent₁
    | later come₂ _ rest₂ =>
      obtain ⟨rfl, rfl⟩ := List.cons.inj (come₁.symm.trans come₂)
      exact ih rest₂

end Outlook

/-! ## Kinds of conduct -/

/-- What is sent, heard and returned, depending on how the world stands. -/
abbrev Conduct (Q A α : Type) :=
  Outlook A → (sent : List Q) → (heard : List A) → Except Halt α → Prop

/-- The conduct allows this and nothing else. -/
structure Conduct.AllowsOnly (conduct : Conduct Q A α) (o : Outlook A) (sent : List Q)
    (heard : List A) (result : Except Halt α) : Prop where
  holds : conduct o sent heard result
  only {sent' : List Q} {heard' : List A} {result' : Except Halt α} :
    conduct o sent' heard' result' → sent' = sent ∧ heard' = heard ∧ result' = result

/-- Nothing more is sent, and the session ends with a value. -/
inductive Returns (a : α) : Conduct Q A α
  | done {o : Outlook A} : Returns a o [] [] (.ok a)

/-- The conduct goes on with a value, or ends at once if there is none. -/
inductive Given (value : Except Failure β) (next : β → Conduct Q A α) : Conduct Q A α
  | missing {o : Outlook A} {failure : Failure} (h : value = .error failure) :
    Given value next o [] [] (.error (.failed failure))
  | present {o : Outlook A} {b : β} {sent : List Q} {heard : List A} {result : Except Halt α}
    (h : value = .ok b) (rest : next b o sent heard result) : Given value next o sent heard result

/-- The conduct goes on with the time. -/
def Timed (next : UInt64 → Conduct Q A α) : Conduct Q A α := fun o => next o.time o

/-- A request and the first answer that comes, after which the conduct goes on with what the answer
says.  That the caller gives up in the meantime changes nothing here. -/
inductive Stage (request : Except Failure Q) (read : A → Except Failure β)
    (next : β → Conduct Q A α) : Conduct Q A α
  | refused {o : Outlook A} {failure : Failure} (h : request = .error failure) :
    Stage request read next o [] [] (.error (.failed failure))
  | unanswered {o : Outlook A} {q : Q} (h : request = .ok q) (silent : o.Silent) :
    Stage request read next o [q] [] (.error .waiting)
  | failed {o later : Outlook A} {q : Q} {answer : A} {failure : Failure} (h : request = .ok q)
    (brings : o.Brings answer later) (bad : read answer = .error failure) :
    Stage request read next o [q] [answer] (.error (.failed failure))
  | passed {o later : Outlook A} {q : Q} {answer : A} {b : β} {sent : List Q} {heard : List A}
    {result : Except Halt α} (h : request = .ok q) (brings : o.Brings answer later)
    (good : read answer = .ok b) (rest : next b later sent heard result) :
    Stage request read next o (q :: sent) (answer :: heard) result

/-- The questions that are put in some moments if polling does not end. -/
def Machine.putIn (machine : Machine Q A μ σ ω) (moments : List (Moment A)) : List Q :=
  machine.questions
    ((machine.replies false moments).length + (machine.asksAfter false moments).toNat)

/-- The answers among some replies. -/
def answersOf (replies : List (Reply A)) : List A :=
  (replies.map Reply.answer).filterMap Except.toOption

/-- How polling ends: which questions have been put, which answers have been heard, what the result is
and how the world stands then. -/
inductive Poller.Ends (p : Poller) (machine : Machine Q A μ σ ω) (state : μ) (o : Outlook A) :
    List Q → List A → Except Halt ω → Outlook A → Prop
  /-- The caller has given up before. -/
  | unbegun (before : o.cancelled = true) :
    Poller.Ends p machine state o [] [] (.error (.failed .cancelled)) o
  /-- No reply has a verdict, and nothing more happens. -/
  | waiting (heeded : o.cancelled = false)
    (quiet : ∀ moment ∈ o.moments, moment.cancelled = false)
    (going : machine.Undecided p.limit state []
      (machine.fetched (machine.replies false o.moments))) :
    Poller.Ends p machine state o (machine.putIn o.moments)
      (answersOf (machine.replies false o.moments)) (.error .waiting)
      ⟨[], timeAfter o.time o.moments, false⟩
  /-- The caller gives up before a reply has a verdict. -/
  | givesUp {early rest : List (Moment A)} {moment : Moment A} (heeded : o.cancelled = false)
    (come : o.moments = early ++ moment :: rest) (quiet : ∀ m ∈ early, m.cancelled = false)
    (cancelled : moment.cancelled = true)
    (going : machine.Undecided p.limit state [] (machine.fetched (machine.replies false early))) :
    Poller.Ends p machine state o (machine.putIn early) (answersOf (machine.replies false early))
      (.error (.failed .cancelled)) ⟨rest, moment.time, true⟩
  /-- A reply is the first one with a verdict. -/
  | decided {gone later : List (Moment A)} {early late : List (Reply A)} {last : Reply A}
    {value : Except Failure ω} (heeded : o.cancelled = false) (come : o.moments = gone ++ later)
    (quiet : ∀ moment ∈ gone, moment.cancelled = false)
    (replies : machine.replies false gone = early ++ last :: late)
    (going : machine.Undecided p.limit state [] (machine.fetched early))
    (verdict : machine.verdict p.limit state (machine.fetched early)
      (machine.outcome last.answer) = some value) :
    Poller.Ends p machine state o (machine.questions (early.length + 1)) (answersOf (early ++ [last]))
      (value.mapError .failed) ⟨last.rest ++ later, last.time, false⟩

/-- Polling, after which the conduct goes on with the output of the machine. -/
inductive Polls (p : Poller) (machine : Machine Q A μ σ ω) (state : μ)
    (next : ω → Conduct Q A α) : Conduct Q A α
  | halted {o later : Outlook A} {asked : List Q} {replied : List A} {halt : Halt}
    (ends : p.Ends machine state o asked replied (.error halt) later) :
    Polls p machine state next o asked replied (.error halt)
  | ready {o later : Outlook A} {asked sent : List Q} {replied heard : List A} {output : ω}
    {result : Except Halt α} (ends : p.Ends machine state o asked replied (.ok output) later)
    (rest : next output later sent heard result) :
    Polls p machine state next o (asked ++ sent) (replied ++ heard) result

/-- What a conduct ends with, if it is a value, is turned into another one. -/
def Yields (conduct : Conduct Q A α) (f : α → β) : Conduct Q A β :=
  fun o sent heard result => ∃ raw, conduct o sent heard raw ∧ result = raw.map f

/-! ## How polling ends -/

namespace Poller

variable {p : Poller} {machine : Machine Q A μ σ ω} {state : μ}

/-- What a run of polling comes to. -/
structure Comes (p : Poller) (machine : Machine Q A μ σ ω) (state : μ) (scene : Scene Q A)
    (asked : List Q) (replied : List A) (result : Except Halt ω) (later : Outlook A) : Prop where
  result : (run p machine state scene).1 = result
  sent : (run p machine state scene).2.sent = scene.sent ++ asked
  heard : (run p machine state scene).2.heard = scene.heard ++ replied
  outlook : (run p machine state scene).2.outlook = later

theorem Ends.comes {scene : Scene Q A} {asked : List Q} {replied : List A} {result : Except Halt ω}
    {later : Outlook A} (h : p.Ends machine state scene.outlook asked replied result later) :
    Comes p machine state scene asked replied result later := by
  cases h with
  | unbegun before =>
    have run := run_of_cancelled p machine state before
    constructor <;> simp [run]
  | waiting heeded quiet going =>
    have run := run_of_undecided p machine state heeded (List.append_nil _).symm quiet going rfl
    constructor <;> rw [run]
    · simp [Machine.sceneAfter, Machine.putIn, Scene.outlook]
    · rfl
    · exact congrArg (Outlook.mk _ _) heeded
  | givesUp heeded come quiet cancelled going =>
    have run := run_gives_up p machine state heeded come quiet going rfl cancelled
    constructor <;> rw [run]
    · simp [Machine.sceneAfter, Machine.putIn]
    · rfl
    · rfl
  | decided heeded come quiet replies going verdict =>
    have run := run_of_verdict p machine state heeded come quiet replies going verdict
    constructor <;> rw [run]
    · simp [Machine.sceneAfter]
    · simp [Machine.sceneAfter, answersOf]
    · exact congrArg (Outlook.mk _ _) heeded

section Ends

variable {o later : Outlook A} {asked : List Q} {replied : List A} {result : Except Halt ω}

/-- Polling ends in one way only. -/
theorem Ends.unique {later' : Outlook A} {asked' : List Q} {replied' : List A}
    {result' : Except Halt ω} (h : p.Ends machine state o asked replied result later)
    (h' : p.Ends machine state o asked' replied' result' later') :
    asked' = asked ∧ replied' = replied ∧ result' = result ∧ later' = later := by
  -- Both say what one and the same run comes to.
  let scene : Scene Q A := { moments := o.moments, time := o.time, cancelled := o.cancelled }
  have comes : Comes p machine state scene asked replied result later := Ends.comes h
  have comes' : Comes p machine state scene asked' replied' result' later' := Ends.comes h'
  refine ⟨?_, ?_, ?_, ?_⟩
  · exact List.append_cancel_left (comes'.sent.symm.trans comes.sent)
  · exact List.append_cancel_left (comes'.heard.symm.trans comes.heard)
  · exact comes'.result.symm.trans comes.result
  · exact comes'.outlook.symm.trans comes.outlook

/-- The same question is put each time. -/
theorem Ends.exists_questions (h : p.Ends machine state o asked replied result later) :
    ∃ n, asked = machine.questions n := by
  cases h with
  | unbegun _ => exact ⟨0, machine.questions_zero.symm⟩
  | waiting _ _ _ => exact ⟨_, rfl⟩
  | givesUp _ _ _ _ _ => exact ⟨_, rfl⟩
  | decided _ _ _ _ _ _ => exact ⟨_, rfl⟩

end Ends

/-- Polling that ends with an output has put its question once for each answer, and the last answer is
the first one with a verdict. -/
theorem Ends.of_ok {o later : Outlook A} {asked : List Q} {replied : List A} {output : ω}
    (h : p.Ends machine state o asked replied (.ok output) later) :
    ∃ q early last, machine.question = .ok q ∧
      machine.Undecided p.limit state [] (early.map machine.status) ∧
      machine.verdict p.limit state (early.map machine.status) (machine.status last) =
        some (.ok output) ∧
      asked = List.replicate (early.length + 1) q ∧ replied = early ++ [last] := by
  generalize hr : (Except.ok output : Except Halt ω) = result at h
  cases h with
  | unbegun _ => cases hr
  | waiting _ _ _ => cases hr
  | givesUp _ _ _ _ _ => cases hr
  | @decided gone _ early late last value _ _ _ replies going verdict =>
    obtain rfl : value = .ok output := mapError_eq_ok_iff.1 hr.symm
    obtain ⟨status, read, -⟩ := machine.verdict_eq_ok_iff.1 verdict
    cases put : machine.question with
    | error failure =>
      -- A question that cannot be put has no status.
      have fails := (machine.replies_of_unput put gone).1 last (by rw [replies]; simp)
      rw [fails] at read
      cases read
    | ok q =>
      obtain ⟨answers, hears⟩ := machine.replies_of_put put false gone
      rw [replies, List.map_append, List.map_cons] at hears
      obtain ⟨before, _, -, hbefore, hafter⟩ := List.map_eq_append_iff.1 hears.symm
      obtain ⟨answer, _, -, hanswer, -⟩ := List.map_eq_cons_iff.1 hafter
      have count : early.length = before.length := by
        simpa using (congrArg List.length hbefore).symm
      have fetched : machine.fetched early = before.map machine.status := by
        have outcomes := congrArg (List.map machine.outcome) hbefore.symm
        rw [List.map_map, List.map_map] at outcomes
        exact outcomes
      rw [fetched] at going verdict
      rw [← hanswer] at verdict
      refine ⟨q, before, answer, rfl, going, verdict, ?_, ?_⟩
      · simp only [Machine.questions, put, count]
      · simp [answersOf, ← hbefore, ← hanswer, List.filterMap_map, Function.comp_def,
          Except.toOption]

end Poller

/-! ## What conducts allow -/

section Allowed

variable {o later : Outlook A} {sent : List Q} {heard : List A} {result : Except Halt α}

theorem Returns.allowsOnly (a : α) : (Returns a : Conduct Q A α).AllowsOnly o [] [] (.ok a) where
  holds := .done
  only h := by
    cases h
    exact ⟨rfl, rfl, rfl⟩

theorem given_ok (b : β) (next : β → Conduct Q A α) : Given (.ok b) next = next b := by
  funext o sent heard result
  refine propext ⟨fun h => ?_, .present rfl⟩
  cases h with
  | missing h => cases h
  | present h rest =>
    cases h
    exact rest

theorem Given.allowsOnly_error (failure : Failure) (next : β → Conduct Q A α) :
    (Given (.error failure) next).AllowsOnly o [] [] (.error (.failed failure)) where
  holds := .missing rfl
  only h := by
    cases h with
    | missing h =>
      cases h
      exact ⟨rfl, rfl, rfl⟩
    | present h => cases h

theorem Timed.allowsOnly {next : UInt64 → Conduct Q A α}
    (h : (next o.time).AllowsOnly o sent heard result) :
    Conduct.AllowsOnly (Timed next) o sent heard result where
  holds := h.holds
  only := h.only

theorem Conduct.AllowsOnly.yields {conduct : Conduct Q A α}
    (h : conduct.AllowsOnly o sent heard result) (f : α → β) :
    Conduct.AllowsOnly (Yields conduct f) o sent heard (result.map f) where
  holds := ⟨result, h.holds, rfl⟩
  only := by
    rintro _ _ _ ⟨raw, goes, rfl⟩
    obtain ⟨rfl, rfl, rfl⟩ := h.only goes
    exact ⟨rfl, rfl, rfl⟩

namespace Stage

variable {read : A → Except Failure β} {next : β → Conduct Q A α} {q : Q} {answer : A}
  {failure : Failure} {b : β}

end Stage

namespace Polls

variable {p : Poller} {machine : Machine Q A μ σ ω} {state : μ} {next : ω → Conduct Q A α}
  {asked : List Q} {replied : List A}

end Polls

end Allowed

/-! ## What is sent -/

/-- What was sent is the beginning of a script; a script lists requests that may turn out not to be
sendable. -/
def Within (scripts : List (Except Failure Q) → Prop) (sent : List Q) : Prop :=
  ∃ script, scripts script ∧ sent.map .ok <+: script

theorem Machine.questions_prefix (machine : Machine Q A μ σ ω) (n : Nat) :
    (machine.questions n).map .ok <+: List.replicate n machine.question := by
  cases put : machine.question with
  | error failure => simp [questions, put]
  | ok q => simp [questions, put]

section Within

variable {scripts : List (Except Failure Q) → Prop} {o : Outlook A} {sent : List Q} {heard : List A}
  {result : Except Halt α}

theorem Within.cons {request : Except Failure Q} {q : Q} (hq : request = .ok q)
    (h : Within (fun tail => scripts (request :: tail)) sent) : Within scripts (q :: sent) := by
  obtain ⟨tail, hs, hp⟩ := h
  refine ⟨_, hs, ?_⟩
  rw [List.map_cons, hq, List.cons_prefix_cons]
  exact ⟨rfl, hp⟩

theorem Returns.within {a : α} (h : Returns a o sent heard result) (hs : scripts []) :
    Within scripts sent := by
  cases h
  exact ⟨[], hs, List.nil_prefix⟩

theorem Given.within {value : Except Failure β} {next : β → Conduct Q A α}
    (h : Given value next o sent heard result) {script : List (Except Failure Q)}
    (hs : scripts script)
    (hn : ∀ b, value = .ok b → next b o sent heard result → Within scripts sent) :
    Within scripts sent := by
  cases h with
  | missing h => exact ⟨script, hs, List.nil_prefix⟩
  | present h rest => exact hn _ h rest

theorem Timed.within {next : UInt64 → Conduct Q A α} (h : Timed next o sent heard result)
    (hn : ∀ time, next time o sent heard result → Within scripts sent) : Within scripts sent :=
  hn _ h

theorem Stage.within {request : Except Failure Q} {read : A → Except Failure β}
    {next : β → Conduct Q A α} (h : Stage request read next o sent heard result)
    {tail : List (Except Failure Q)} (hs : scripts (request :: tail))
    (hn : ∀ b o sent heard, next b o sent heard result →
      Within (fun tail => scripts (request :: tail)) sent) : Within scripts sent := by
  have stop : Within (fun tail => scripts (request :: tail)) [] := ⟨tail, hs, List.nil_prefix⟩
  cases h with
  | refused h => exact ⟨_, hs, List.nil_prefix⟩
  | unanswered h silent => exact stop.cons h
  | failed h brings bad => exact stop.cons h
  | passed h brings good rest => exact (hn _ _ _ _ rest).cons h

theorem Polls.within {p : Poller} {machine : Machine Q A μ σ ω} {state : μ}
    {next : ω → Conduct Q A α} (h : Polls p machine state next o sent heard result)
    {request : Except Failure Q} (asked : machine.question = request)
    {tail : List (Except Failure Q)} (hs : ∀ n, scripts (List.replicate (n + 1) request ++ tail))
    (hn : ∀ n output o sent heard, next output o sent heard result →
      Within (fun tail => scripts (List.replicate (n + 1) request ++ tail)) sent) :
    Within scripts sent := by
  subst asked
  cases h with
  | halted ends =>
    obtain ⟨n, rfl⟩ := ends.exists_questions
    refine ⟨_, hs n, (machine.questions_prefix n).trans ?_⟩
    rw [List.replicate_succ', List.append_assoc]
    exact List.prefix_append _ _
  | ready ends rest =>
    obtain ⟨q, early, last, put, -, -, rfl, -⟩ := ends.of_ok
    obtain ⟨tail, ht, hp⟩ := hn early.length _ _ _ _ rest
    refine ⟨_, ht, ?_⟩
    rw [List.map_append, List.map_replicate, put]
    exact (List.prefix_append_right_inj _).2 hp

end Within

/-! ## Failures without a request -/

/-- The conduct ends with a failure before anything is sent. -/
def FailsAtOnce (sent : List Q) (result : Except Halt α) : Prop :=
  sent = [] ∧ ∃ failure, result = .error (.failed failure)

theorem FailsAtOnce.map {sent : List Q} {result : Except Halt α} (h : FailsAtOnce sent result)
    (f : α → β) : FailsAtOnce sent (result.map f) := by
  obtain ⟨nothing, failure, rfl⟩ := h
  exact ⟨nothing, failure, rfl⟩

section Success

variable {o : Outlook A} {sent : List Q} {heard : List A} {a : α}

theorem Returns.of_ok {b : α} (h : Returns b o sent heard (.ok a)) :
    sent = [] ∧ heard = [] ∧ b = a := by
  cases h
  exact ⟨rfl, rfl, rfl⟩

theorem Given.of_ok {value : Except Failure β} {next : β → Conduct Q A α}
    (h : Given value next o sent heard (.ok a)) :
    ∃ b, value = .ok b ∧ next b o sent heard (.ok a) := by
  cases h with
  | present h rest => exact ⟨_, h, rest⟩

theorem Timed.of_ok {next : UInt64 → Conduct Q A α} (h : Timed next o sent heard (.ok a)) :
    ∃ time, next time o sent heard (.ok a) :=
  ⟨_, h⟩

theorem Stage.of_ok {request : Except Failure Q} {read : A → Except Failure β}
    {next : β → Conduct Q A α} (h : Stage request read next o sent heard (.ok a)) :
    ∃ q answer b later sent' heard', request = .ok q ∧ read answer = .ok b ∧ sent = q :: sent' ∧
      heard = answer :: heard' ∧ next b later sent' heard' (.ok a) := by
  cases h with
  | passed h brings good rest => exact ⟨_, _, _, _, _, _, h, good, rfl, rfl, rest⟩

theorem Polls.of_ok {p : Poller} {machine : Machine Q A μ σ ω} {state : μ}
    {next : ω → Conduct Q A α} (h : Polls p machine state next o sent heard (.ok a)) :
    ∃ q early last output later sent' heard', machine.question = .ok q ∧
      machine.Undecided p.limit state [] (early.map machine.status) ∧
      machine.verdict p.limit state (early.map machine.status) (machine.status last) =
        some (.ok output) ∧
      sent = List.replicate (early.length + 1) q ++ sent' ∧ heard = early ++ last :: heard' ∧
      next output later sent' heard' (.ok a) := by
  cases h with
  | ready ends rest =>
    obtain ⟨q, early, last, put, going, verdict, rfl, rfl⟩ := ends.of_ok
    exact ⟨q, early, last, _, _, _, _, put, going, verdict, rfl, List.append_assoc .., rest⟩

theorem Yields.of_ok {conduct : Conduct Q A α} {f : α → β} {b : β}
    (h : Yields conduct f o sent heard (.ok b)) : ∃ a, conduct o sent heard (.ok a) ∧ f a = b := by
  obtain ⟨raw, goes, hb⟩ := h
  cases raw with
  | error halt => cases hb
  | ok a =>
    cases hb
    exact ⟨a, goes, rfl⟩

end Success

end QuoteProver.Prover
