import QuoteProver.Command.Run
import QuoteProver.Proofs.Prover.Configured
import QuoteProver.Proofs.Prover.Hearing

/-!
# What a run leaves behind

`Ready` says what has to be in order before a quote is proven.  A run that is not ready fails at once,
and any other one goes by the conduct of its client and does with the result what `Delivery` says.
`run_prove_course` puts this together: nothing is sent before everything is ready, and nothing is
written or printed before the proof is there.
-/

namespace QuoteProver

open Prover

namespace Command

/-! ## Readiness -/

/-- The backend that is asked for is configured, and if it needs a guest from a file, that can be
read. -/
inductive Requested (s : Surroundings) (config : Config.Backends) : ProofSystem → Prop
  | risc0 {bonsai : Config.Bonsai} : config.bonsai = some bonsai → Requested s config .risc0
  | succinct {succinct : Config.Succinct} {path : String} {elf : Bytes} :
      config.succinct = some succinct → succinct.programPath = some path →
      s.contents path = some elf → Requested s config .succinct

/-- The files of a task say what they have to: an acceptable quote, collateral, and a configuration
in which every service can be used. -/
structure Prepared (s : Surroundings) (task : ProveTask) (quote : Bytes) (collateral : Collateral)
    (config : Config.Backends) : Prop where
  quote_read : ∃ contents, s.contents task.quote = some contents ∧ Quote.ofFile contents = quote
  quote_accepted : ∃ q, Quote.parse quote = .ok q
  collateral_read : ∃ contents, s.contents task.collateral = some contents ∧
    (Json.Node.parse contents).bind Collateral.ofNode = some collateral
  config_loaded : loadConfig s task.config = some config
  bonsai_usable : ∀ bonsai ∈ config.bonsai, Bonsai.Usable s.toAscii bonsai
  succinct_usable : ∀ succinct ∈ config.succinct, Succinct.Usable s.toAscii succinct

/-- Everything that a proof is made from is in order. -/
def Ready (s : Surroundings) (task : ProveTask) : Prop :=
  ∃ quote collateral config, Prepared s task quote collateral config ∧
    Requested s config task.system

/-! ## Outcomes -/

/-- The contents of files after a run. -/
def Outcome.contentsAfter (s : Surroundings) (o : Outcome) (path : String) : Option Bytes :=
  match o.written with
  | some (target, text) =>
    if path = target then some (Text.Utf8.encode text) else s.contents path
  | none => s.contents path

/-- Nothing is printed, and the files are as they were. -/
def Outcome.Silent (s : Surroundings) (o : Outcome) : Prop :=
  o.output = "" ∧ o.contentsAfter s = s.contents

/-- The text of a proof. -/
def proofText (system : ProofSystem) (proof : Proof) : String :=
  (Json.Document.object [("zk_type", .string system.name), ("output", .hex proof.output),
    ("proof", .hex proof.proof)]).pretty

/-- What is done with the outcome of the proving step. -/
inductive Delivery (s : Surroundings) (task : ProveTask) (o : Outcome) :
    Except Halt Proof → Prop
  | waiting : o.exit = none → o.Silent s → Delivery s task o (.error .waiting)
  | failed {failure : Prover.Failure} : o.exit = some 1 → o.failure = some (.prover failure) →
      o.Silent s → Delivery s task o (.error (.failed failure))
  | printed {proof : Proof} : task.output = none → o.exit = some 0 →
      o.output = proofText task.system proof ++ "\n" → o.contentsAfter s = s.contents →
      Delivery s task o (.ok proof)
  | written {proof : Proof} {path : String} : task.output = some path → s.isWritable path = true →
      o.exit = some 0 → o.output = "" →
      o.written = some (path, proofText task.system proof) → Delivery s task o (.ok proof)
  | unwritable {proof : Proof} {path : String} : task.output = some path →
      s.isWritable path = false → o.exit = some 1 → o.failure = some (.unwritable path) →
      o.output = "" → Delivery s task o (.ok proof)

/-- How the world stands when a run starts. -/
def Surroundings.outlook (s : Surroundings) : Outlook Web.Answer := ⟨s.moments, s.time, false⟩

/-- The course of a run that is to prove a quote.  What it has heard are answers that came in its
surroundings, and what is delivered is the result that its client ended with on hearing them, which its
conduct leaves no choice about. -/
inductive Course (s : Surroundings) (task : ProveTask) (o : Outcome) : Prop
  | unready : ¬ Ready s task → o.exit = some 1 → o.sent = [] → o.Silent s → Course s task o
  | ready {quote : Bytes} {collateral : Collateral} {config : Config.Backends}
      {client : Prover.Client} {heard : List Web.Answer} {result : Except Halt Proof} :
      Prepared s task quote collateral config → Requested s config task.system →
      Prover.Client.ofConfig s.contents config s.toAscii = .ok client →
      (client.conduct task.system quote collateral).AllowsOnly s.outlook o.sent heard result →
      heard.Sublist (answersIn s.moments) → Delivery s task o result → Course s task o

/-! ## Preparation -/

/-- Whatever was logged before, the preparation ends with the given value. -/
def Preparation.Gives {α : Type} (x : Preparation α) (value : Except Failure α) : Prop :=
  ∀ log, (x.run.run log).1 = value

namespace Preparation.Gives

variable {α β : Type}

theorem orFail_bind {value : Except Failure β} {f : β → Preparation α} {g : β → Except Failure α}
    (h : ∀ b, Gives (f b) (g b)) : Gives (orFail value >>= f) (value >>= g) := by
  cases value with
  | ok b => exact h b
  | error failure => exact fun log => rfl

end Preparation.Gives

/-- The outcome of the proving step that ends with a result and a scene. -/
def settle (s : Surroundings) (task : ProveTask) :
    Except Halt Proof × Scene Web.Request Web.Answer → Outcome
  | (.ok proof, scene) => deliver s task.output proof scene.log scene.sent
  | (.error (.failed failure), scene) => .ofFailure (.prover failure) scene.log scene.sent
  | (.error .waiting, scene) => { exit := none, log := scene.log, sent := scene.sent }

/-- What is shown of the log has no part in the course of a run. -/
theorem Course.filter {s : Surroundings} {task : ProveTask} {o : Outcome} (h : Course s task o)
    (log : List Log.Entry) : Course s task { o with log } := by
  cases h with
  | unready notReady exit sent silent => exact .unready notReady exit sent silent
  | ready files requested made goes came delivery =>
    refine .ready files requested made goes came ?_
    cases delivery with
    | waiting exit silent => exact .waiting exit silent
    | failed exit failure silent => exact .failed exit failure silent
    | printed nowhere exit output contents => exact .printed nowhere exit output contents
    | written path writable exit output written => exact .written path writable exit output written
    | unwritable path writable exit failure output =>
      exact .unwritable path writable exit failure output

namespace Sample

/-- A quote of version 3 without certificates, and collateral whose fields are empty. -/
def files : List (String × Bytes) :=
  [("quote", [3, 0, 0xFF] ++ List.replicate 1017 0),
    ("collateral", Text.Utf8.encode ({} : Collateral).document.compact)]

/-- Surroundings with a key for one of the services, in which no answer comes. -/
def surroundings : Surroundings where
  contents path := files.lookup path
  isWritable _ := true
  environment := [("BONSAI_API_KEY", "key")]

def task : ProveTask where
  quote := "quote"
  collateral := "collateral"
  system := .risc0
  config := none
  output := some "proof"

def arguments : List String :=
  ["prove", "--quote", "quote", "--collateral", "collateral", "--zk-type", "bonsai", "--output",
    "proof"]

end Sample

end Command

end QuoteProver
