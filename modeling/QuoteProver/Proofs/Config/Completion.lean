import QuoteProver.Config.Backends

/-!
# Completed configurations

`complete_settles` says what filling in the defaults makes of a configuration: doing it once is
enough, a service stays exactly if its key is set in its section or else in its variable, nothing of
a service that stays is missing, and what was set is kept.  The two services have no part in each
other.
-/

namespace QuoteProver.Config

/-- The variable is set, and not to the empty text. -/
def Environment.Gives (environment : Environment) (name : String) : Prop :=
  ∃ value, environment.lookup name = some value ∧ value ≠ ""

/-- Other addresses can be put behind this one. -/
def EndsInSlash (url : String) : Prop := ∃ front, url = front ++ "/"

/-! ## Fields -/

section Fields

variable {text default url : String} {n m : UInt64}

theorem textOr_of_ne_empty (h : text ≠ "") : textOr text default = text := by
  rw [textOr, if_neg (by simpa using h)]

@[simp] theorem textOr_empty : textOr "" default = default := by
  rw [textOr, if_pos (by simp)]

theorem textOr_ne_empty_iff : textOr text default ≠ "" ↔ text ≠ "" ∨ default ≠ "" := by
  by_cases h : text = ""
  · rw [h, textOr_empty]
    simp
  · rw [textOr_of_ne_empty h]
    simp [h]

theorem wordOr_of_ne_zero (h : n ≠ 0) : wordOr n m = n := if_neg h

theorem wordOr_ne_zero (h : m ≠ 0) : wordOr n m ≠ 0 := by
  unfold wordOr
  split
  · exact h
  · assumption

theorem Environment.valueOr_ne_empty_iff {environment : Environment} {name : String} :
    environment.valueOr name default ≠ "" ↔ default ≠ "" ∨ environment.Gives name := by
  unfold Environment.valueOr Environment.Gives
  cases environment.lookup name with
  | none => simp
  | some value => by_cases h : value = "" <;> simp [h]

/-! ## Addresses -/

theorem endsInSlash_iff : EndsInSlash url ↔ url.toList.getLast? = some '/' := by
  constructor
  · rintro ⟨front, rfl⟩
    simp [String.toList_append]
  · intro h
    obtain ⟨front, hfront⟩ := List.getLast?_eq_some_iff.1 h
    refine ⟨String.ofList front, ?_⟩
    rw [← String.toList_inj, hfront, String.toList_append, String.toList_ofList]
    rfl

theorem EndsInSlash.ne_empty (h : EndsInSlash url) : url ≠ "" := by
  rintro rfl
  simp [endsInSlash_iff] at h

theorem withSlash_of_endsInSlash (h : EndsInSlash url) : withSlash url = url := by
  rw [withSlash, if_pos (by simp [endsInSlash_iff.1 h])]

theorem withSlash_eq_or (url : String) : withSlash url = url ∨ withSlash url = url ++ "/" := by
  unfold withSlash
  split
  · exact .inl rfl
  · exact .inr rfl

theorem endsInSlash_withSlash (h : url ≠ "") : EndsInSlash (withSlash url) := by
  by_cases ends : EndsInSlash url
  · rwa [withSlash_of_endsInSlash ends]
  · have missing : ¬ url.toList.getLast? = some '/' := fun last => ends (endsInSlash_iff.2 last)
    refine ⟨url, ?_⟩
    rw [withSlash, if_neg (by simp [h, missing])]

end Fields

/-! ## What is kept -/

/-- A text that is not empty stays. -/
def KeepsText (old new : String) : Prop := old ≠ "" → new = old

/-- A number that is not zero stays. -/
def KeepsWord (old new : UInt64) : Prop := old ≠ 0 → new = old

/-- An address that is not empty stays, up to a slash behind it. -/
def KeepsAddress (old new : String) : Prop := old ≠ "" → new = old ∨ new = old ++ "/"

theorem keepsText_textOr (text default : String) : KeepsText text (textOr text default) :=
  textOr_of_ne_empty

theorem keepsWord_wordOr (n m : UInt64) : KeepsWord n (wordOr n m) := wordOr_of_ne_zero

theorem keepsAddress_withSlash (text default : String) :
    KeepsAddress text (withSlash (textOr text default)) := by
  intro h
  rw [textOr_of_ne_empty h]
  exact withSlash_eq_or text

/-- A completed address is complete. -/
theorem withSlash_textOr_again {text default : String} (h : default ≠ "") :
    withSlash (textOr (withSlash (textOr text default)) default) =
      withSlash (textOr text default) := by
  have filled : textOr text default ≠ "" := textOr_ne_empty_iff.2 (.inr h)
  have ends := endsInSlash_withSlash filled
  rw [textOr_of_ne_empty ends.ne_empty, withSlash_of_endsInSlash ends]

theorem textOr_again (text default : String) :
    textOr (textOr text default) default = textOr text default := by
  by_cases h : text = ""
  · rw [h, textOr_empty]
    exact ite_self default
  · rw [textOr_of_ne_empty h, textOr_of_ne_empty h]

theorem wordOr_again (n m : UInt64) : wordOr (wordOr n m) m = wordOr n m := by
  by_cases h : n = 0
  · rw [h]
    exact ite_self m
  · rw [wordOr_of_ne_zero h, wordOr_of_ne_zero h]

/-! ## Sections -/

namespace Bonsai

/-- Nothing that the service needs is missing. -/
structure Settled (b : Bonsai) : Prop where
  apiUrl : EndsInSlash b.apiUrl
  apiKey : b.apiKey ≠ ""
  version : b.version ≠ ""
  imageId : b.imageId ≠ ""
  timeout : b.timeout ≠ 0
  pollInterval : b.pollInterval ≠ 0

structure Keeps (old new : Bonsai) : Prop where
  apiUrl : KeepsAddress old.apiUrl new.apiUrl
  apiKey : KeepsText old.apiKey new.apiKey
  version : KeepsText old.version new.version
  imageId : KeepsText old.imageId new.imageId
  timeout : KeepsWord old.timeout new.timeout
  pollInterval : KeepsWord old.pollInterval new.pollInterval

/-- The variables that stand in for fields. -/
def variableNames : List String := ["BONSAI_API_URL", "BONSAI_API_KEY"]

variable (environment : Environment) (b : Bonsai)

theorem keeps_complete : b.Keeps (b.complete environment) where
  apiUrl := keepsAddress_withSlash _ _
  apiKey := keepsText_textOr _ _
  version := keepsText_textOr _ _
  imageId := keepsText_textOr _ _
  timeout := keepsWord_wordOr _ _
  pollInterval := keepsWord_wordOr _ _

theorem complete_again : (b.complete environment).complete environment = b.complete environment := by
  have url : environment.valueOr "BONSAI_API_URL" "https://api.bonsai.xyz/" ≠ "" :=
    Environment.valueOr_ne_empty_iff.2 (.inl (by decide))
  simp only [complete, withSlash_textOr_again url, textOr_again, wordOr_again]

theorem isConfigured_complete_iff : (b.complete environment).isConfigured = true ↔
    b.apiKey ≠ "" ∨ environment.Gives "BONSAI_API_KEY" := by
  have key : (b.complete environment).apiKey ≠ "" ↔
      b.apiKey ≠ "" ∨ environment.Gives "BONSAI_API_KEY" := by
    rw [complete, textOr_ne_empty_iff, Environment.valueOr_ne_empty_iff]
    simp
  rw [← key, isConfigured]
  simp

variable {environment b}

theorem settled_complete (h : (b.complete environment).isConfigured = true) :
    (b.complete environment).Settled where
  apiUrl := endsInSlash_withSlash (textOr_ne_empty_iff.2
    (.inr (Environment.valueOr_ne_empty_iff.2 (.inl (by decide)))))
  apiKey := by simpa [isConfigured] using h
  version := textOr_ne_empty_iff.2 (.inr (by decide))
  imageId := textOr_ne_empty_iff.2 (.inr (by decide))
  timeout := wordOr_ne_zero (by decide)
  pollInterval := wordOr_ne_zero (by decide)

theorem complete_of_same_variables {environment' : Environment}
    (same : ∀ name ∈ variableNames, environment'.lookup name = environment.lookup name) :
    b.complete environment' = b.complete environment := by
  have url := same "BONSAI_API_URL" (by simp [variableNames])
  have key := same "BONSAI_API_KEY" (by simp [variableNames])
  simp only [complete, Environment.valueOr, url, key]

end Bonsai

namespace Succinct

/-- Nothing that the network needs is missing. -/
structure Settled (s : Succinct) : Prop where
  rpc : EndsInSlash s.rpc
  privateKey : s.privateKey ≠ ""
  timeout : s.timeout ≠ 0
  pollInterval : s.pollInterval ≠ 0
  version : s.version ≠ ""

structure Keeps (old new : Succinct) : Prop where
  rpc : KeepsAddress old.rpc new.rpc
  privateKey : KeepsText old.privateKey new.privateKey
  timeout : KeepsWord old.timeout new.timeout
  pollInterval : KeepsWord old.pollInterval new.pollInterval
  version : KeepsText old.version new.version
  programPath : new.programPath = old.programPath

/-- The variables that stand in for fields. -/
def variableNames : List String := ["PROVER_NETWORK_RPC", "SP1_PRIVATE_KEY"]

variable (environment : Environment) (s : Succinct)

theorem keeps_complete : s.Keeps (s.complete environment) where
  rpc := keepsAddress_withSlash _ _
  privateKey := keepsText_textOr _ _
  timeout := keepsWord_wordOr _ _
  pollInterval := keepsWord_wordOr _ _
  version := keepsText_textOr _ _
  programPath := rfl

theorem complete_again : (s.complete environment).complete environment = s.complete environment := by
  have url : environment.valueOr "PROVER_NETWORK_RPC" "https://rpc.succinct.xyz/" ≠ "" :=
    Environment.valueOr_ne_empty_iff.2 (.inl (by decide))
  simp only [complete, withSlash_textOr_again url, textOr_again, wordOr_again]

theorem isConfigured_complete_iff : (s.complete environment).isConfigured = true ↔
    s.privateKey ≠ "" ∨ environment.Gives "SP1_PRIVATE_KEY" := by
  have key : (s.complete environment).privateKey ≠ "" ↔
      s.privateKey ≠ "" ∨ environment.Gives "SP1_PRIVATE_KEY" := by
    rw [complete, textOr_ne_empty_iff, Environment.valueOr_ne_empty_iff]
    simp
  rw [← key, isConfigured]
  simp

variable {environment s}

theorem settled_complete (h : (s.complete environment).isConfigured = true) :
    (s.complete environment).Settled where
  rpc := endsInSlash_withSlash (textOr_ne_empty_iff.2
    (.inr (Environment.valueOr_ne_empty_iff.2 (.inl (by decide)))))
  privateKey := by simpa [isConfigured] using h
  timeout := wordOr_ne_zero (by decide)
  pollInterval := wordOr_ne_zero (by decide)
  version := textOr_ne_empty_iff.2 (.inr (by decide))

theorem complete_of_same_variables {environment' : Environment}
    (same : ∀ name ∈ variableNames, environment'.lookup name = environment.lookup name) :
    s.complete environment' = s.complete environment := by
  have url := same "PROVER_NETWORK_RPC" (by simp [variableNames])
  have key := same "SP1_PRIVATE_KEY" (by simp [variableNames])
  simp only [complete, Environment.valueOr, url, key]

end Succinct

/-! ## Both services -/

namespace Backends

/-- Sections are completed and dropped only once: a section that was dropped is dropped again when it
starts as an empty one. -/
theorem filter_complete_again {α : Type} {complete : α → α} (configured : α → Bool) (empty : α)
    (again : ∀ a, complete (complete a) = complete a)
    (dropped : ∀ a, configured (complete a) = false → configured (complete empty) = false)
    (given : Option α) :
    (some (complete (((some (complete (given.getD empty))).filter configured).getD empty))).filter
        configured =
      (some (complete (given.getD empty))).filter configured := by
  cases stays : configured (complete (given.getD empty)) with
  | true => simp [Option.filter, stays, again]
  | false => simp [Option.filter, stays, dropped _ stays]

theorem complete_again (environment : Environment) (c : Backends) :
    (c.complete environment).complete environment = c.complete environment := by
  have bonsai := filter_complete_again Bonsai.isConfigured {} (Bonsai.complete_again environment)
    (fun b dropped => by
      simp only [Bool.eq_false_iff, ne_eq, Bonsai.isConfigured_complete_iff] at dropped ⊢
      exact fun h => dropped (.inr (h.resolve_left (not_not_intro trivial)))) c.bonsai
  have succinct := filter_complete_again Succinct.isConfigured {}
    (Succinct.complete_again environment) (fun s dropped => by
      simp only [Bool.eq_false_iff, ne_eq, Succinct.isConfigured_complete_iff] at dropped ⊢
      exact fun h => dropped (.inr (h.resolve_left (not_not_intro trivial)))) c.succinct
  simp only [complete, bonsai, succinct]

variable {environment : Environment} {c : Backends}

theorem bonsai_eq_some_iff {b : Bonsai} : (c.complete environment).bonsai = some b ↔
    (c.bonsai.getD {}).complete environment = b ∧ b.isConfigured = true := by
  rw [complete, Option.filter_eq_some_iff, Option.some_inj]

theorem succinct_eq_some_iff {s : Succinct} : (c.complete environment).succinct = some s ↔
    (c.succinct.getD {}).complete environment = s ∧ s.isConfigured = true := by
  rw [complete, Option.filter_eq_some_iff, Option.some_inj]

/-- The field of a section that may be missing is set. -/
def SetIn {α : Type} (given : Option α) (field : α → String) : Prop :=
  ∃ a, given = some a ∧ field a ≠ ""

theorem setIn_iff {α : Type} {given : Option α} {field : α → String} (empty : α)
    (h : field empty = "") : SetIn given field ↔ field (given.getD empty) ≠ "" := by
  cases given <;> simp [SetIn, h]

theorem bonsai_isSome_iff : (c.complete environment).bonsai.isSome = true ↔
    SetIn c.bonsai Bonsai.apiKey ∨ environment.Gives "BONSAI_API_KEY" := by
  rw [setIn_iff {} rfl, ← Bonsai.isConfigured_complete_iff, Option.isSome_iff_exists]
  simp only [bonsai_eq_some_iff]
  exact ⟨fun ⟨_, rfl, h⟩ => h, fun h => ⟨_, rfl, h⟩⟩

theorem succinct_isSome_iff : (c.complete environment).succinct.isSome = true ↔
    SetIn c.succinct Succinct.privateKey ∨ environment.Gives "SP1_PRIVATE_KEY" := by
  rw [setIn_iff {} rfl, ← Succinct.isConfigured_complete_iff, Option.isSome_iff_exists]
  simp only [succinct_eq_some_iff]
  exact ⟨fun ⟨_, rfl, h⟩ => h, fun h => ⟨_, rfl, h⟩⟩

/-- Completing a configuration again changes nothing.  A service stays if and only if its key is set
in its section or in its variable, and depends on nothing but its section and its own variables.
Nothing is missing in a section that stays, and what was set in it is kept. -/
theorem complete_settles (environment : Environment) (c : Backends) :
    (c.complete environment).complete environment = c.complete environment ∧
    ((c.complete environment).bonsai.isSome = true ↔
      SetIn c.bonsai Bonsai.apiKey ∨ environment.Gives "BONSAI_API_KEY") ∧
    ((c.complete environment).succinct.isSome = true ↔
      SetIn c.succinct Succinct.privateKey ∨ environment.Gives "SP1_PRIVATE_KEY") ∧
    (∀ (environment' : Environment) (c' : Backends), c'.bonsai = c.bonsai →
      (∀ name ∈ Bonsai.variableNames, environment'.lookup name = environment.lookup name) →
      (c'.complete environment').bonsai = (c.complete environment).bonsai) ∧
    (∀ (environment' : Environment) (c' : Backends), c'.succinct = c.succinct →
      (∀ name ∈ Succinct.variableNames, environment'.lookup name = environment.lookup name) →
      (c'.complete environment').succinct = (c.complete environment).succinct) ∧
    (∀ b, (c.complete environment).bonsai = some b → b.Settled ∧ (c.bonsai.getD {}).Keeps b) ∧
    (∀ s, (c.complete environment).succinct = some s →
      s.Settled ∧ (c.succinct.getD {}).Keeps s) := by
  refine ⟨complete_again environment c, bonsai_isSome_iff, succinct_isSome_iff, ?_, ?_, ?_, ?_⟩
  · intro environment' c' given same
    rw [complete, complete, given, Bonsai.complete_of_same_variables same]
  · intro environment' c' given same
    rw [complete, complete, given, Succinct.complete_of_same_variables same]
  · intro b h
    obtain ⟨rfl, stays⟩ := bonsai_eq_some_iff.1 h
    exact ⟨Bonsai.settled_complete stays, Bonsai.keeps_complete ..⟩
  · intro s h
    obtain ⟨rfl, stays⟩ := succinct_eq_some_iff.1 h
    exact ⟨Succinct.settled_complete stays, Succinct.keeps_complete ..⟩

end Backends

namespace Sample

def environment : Environment := [("BONSAI_API_KEY", "unused"), ("BONSAI_API_URL", "http://localhost")]

/-- A section with a key of its own whose address comes from a variable. -/
def given : Backends := { bonsai := some { apiKey := "key", timeout := 7 } }

def settled : Bonsai :=
  { apiUrl := "http://localhost/", apiKey := "key", version := "1.1.2",
    imageId := Bonsai.defaultImageId, timeout := 7, pollInterval := 5 }

end Sample

theorem complete_settles_sample :
    Sample.given.complete Sample.environment = { bonsai := some Sample.settled } ∧
      Sample.settled.Settled ∧ (Sample.given.bonsai.getD {}).Keeps Sample.settled := by
  have completed : Sample.given.complete Sample.environment = { bonsai := some Sample.settled } := by
    decide +kernel
  obtain ⟨-, -, -, -, -, stays, -⟩ := Backends.complete_settles Sample.environment Sample.given
  exact ⟨completed, stays Sample.settled (by rw [completed])⟩

end QuoteProver.Config
