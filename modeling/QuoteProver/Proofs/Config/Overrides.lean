import QuoteProver.Proofs.Config.Completion

/-!
# Variables over text fields

A variable can set a text field of a section.  `load_takes_variable` says what becomes of its text:
the field holds the text of the value that the variable is taken for.  That is the text of the
variable unless it is spelt like a truth value or a number.
-/

namespace QuoteProver.Config

open Decimal (Binary64 splitSign integer? exponent? binary64?)

namespace Value

/-! ## Settings at their paths -/

section Layers

variable {name other : String} {change : Value → Value} {olds : List (String × Value)}
  {new old : Value} {names : List String} {path : List Step}

theorem lookup_cons_self {value : Value} : List.lookup name ((name, value) :: olds) = some value := by
  rw [List.lookup_cons, beq_self_eq_true]

theorem lookup_cons_of_ne {value : Value} (h : other ≠ name) :
    List.lookup other ((name, value) :: olds) = List.lookup other olds := by
  rw [List.lookup_cons, beq_false_of_ne h]

theorem lookup_update_self :
    (update name change olds).lookup name = some (change ((olds.lookup name).getD nothing)) := by
  induction olds with
  | nil => exact lookup_cons_self
  | cons entry olds ih =>
    obtain ⟨first, value⟩ := entry
    by_cases same : first = name
    · rw [update, if_pos same, same, lookup_cons_self, lookup_cons_self, Option.getD_some]
    · have different : name ≠ first := Ne.symm same
      rw [update, if_neg same, lookup_cons_of_ne different, lookup_cons_of_ne different, ih]

theorem lookup_update_of_ne (h : other ≠ name) :
    (update name change olds).lookup other = olds.lookup other := by
  induction olds with
  | nil => exact lookup_cons_of_ne h
  | cons entry olds ih =>
    obtain ⟨first, value⟩ := entry
    by_cases same : first = name
    · rw [update, if_pos same, same, lookup_cons_of_ne h, lookup_cons_of_ne h]
    · rw [update, if_neg same, List.lookup_cons, List.lookup_cons, ih]

/-- The value at a path of names. -/
def at? : List String → Value → Option Value
  | [], value => some value
  | name :: names, value => (value.entries.lookup name).bind (at? names)

/-- A value that takes the place of what was there, whatever that is. -/
def Replaces (new : Value) : Prop := ∀ old, overlay old new = new

/-- A path that parts from the names at some name, so that it leads neither to the setting there, nor
to a part of it, nor to what it is a part of.  An index where the names go on makes a list of what
was a table, so it is not apart. -/
inductive Apart : List Step → List String → Prop
  | here {a b : String} {path : List Step} {names : List String} : a ≠ b →
      Apart (.entry a :: path) (b :: names)
  | deeper {a : String} {path : List Step} {names : List String} : Apart path names →
      Apart (.entry a :: path) (a :: names)

theorem Apart.at?_nothing (h : Apart path names) : at? names nothing = none := by
  cases h <;> rfl

theorem at?_overAt (h : new.Replaces) :
    at? names (overAt new (names.map .entry) old) = some new := by
  induction names generalizing old with
  | nil => exact congrArg some (h old)
  | cons name names ih =>
    rw [List.map_cons, overAt, at?, entries, lookup_update_self, Option.bind_some, ih]

theorem at?_overAt_of_apart (h : Apart path names) :
    at? names (overAt new path old) = at? names old := by
  induction h generalizing old with
  | here different => rw [overAt, at?, at?, entries, lookup_update_of_ne (Ne.symm different)]
  | @deeper a path names apart ih =>
    rw [overAt, at?, at?, entries, lookup_update_self, Option.bind_some, ih]
    cases old.entries.lookup a with
    | none => exact apart.at?_nothing
    | some value => rfl

theorem overAll_cons (setting : String × Value) (settings : List (String × Value)) (old : Value) :
    overAll (setting :: settings) old =
      overAll settings (overAt setting.2 (pathOf setting.1) old) :=
  rfl

/-- The setting is the one at these names, or has nothing to do with it. -/
def Agrees (names : List String) (new : Value) (setting : String × Value) : Prop :=
  (pathOf setting.1 = names.map .entry ∧ setting.2 = new) ∨ Apart (pathOf setting.1) names

/-- A setting stays as it is under settings that have nothing to do with it. -/
theorem at?_overAll_of_at? {settings : List (String × Value)} (h : new.Replaces)
    (agree : ∀ setting ∈ settings, Agrees names new setting) (found : at? names old = some new) :
    at? names (overAll settings old) = some new := by
  induction settings generalizing old with
  | nil => exact found
  | cons setting settings ih =>
    obtain ⟨first, agree⟩ := List.forall_mem_cons.1 agree
    rw [overAll_cons]
    refine ih agree ?_
    obtain ⟨path, value⟩ | apart := first
    · rw [path, value, at?_overAt h]
    · rw [at?_overAt_of_apart apart, found]

/-- A setting that is laid over a configuration, and no other one that has to do with it, stands in
the result. -/
theorem at?_overAll {settings : List (String × Value)} {key : String} (h : new.Replaces)
    (agree : ∀ setting ∈ settings, Agrees names new setting) (path : pathOf key = names.map .entry)
    (mem : (key, new) ∈ settings) : at? names (overAll settings old) = some new := by
  induction settings generalizing old with
  | nil => cases mem
  | cons setting settings ih =>
    obtain ⟨-, others⟩ := List.forall_mem_cons.1 agree
    rw [overAll_cons]
    obtain rfl | later := List.mem_cons.1 mem
    · refine at?_overAll_of_at? h others ?_
      rw [path, at?_overAt h]
    · exact ih others later

end Layers

/-! ## Values of variables -/

theorem replaces_ofVariable (v : String) : (ofVariable v).Replaces := by
  intro old
  unfold ofVariable
  split
  · rfl
  · split
    · rfl
    · split
      · split <;> rfl
      · split <;> rfl

theorem positional_ne_nil (s : Decimal.Scientific) : s.positional ≠ [] := by
  unfold Decimal.Scientific.positional
  split
  · exact List.append_ne_nil_of_left_ne_nil Nat.toDigits_ne_nil _
  · exact List.append_ne_nil_of_right_ne_nil _ (List.cons_ne_nil _ _)

theorem text_ne_empty (x : Binary64) : x.text ≠ "" := by
  cases x with
  | nan => decide
  | infinite negative => cases negative <;> decide
  | finite negative m e =>
    have digits : (if m = 0 then ['0'] else (Decimal.shortest m e).positional) ≠ [] := by
      split
      · exact List.cons_ne_nil _ _
      · exact positional_ne_nil _
    simp only [Binary64.text]
    cases negative with
    | true => simp
    | false => simpa using digits

theorem toString_ne_empty (n : Int) : toString n ≠ "" := by
  rw [Int.toString_eq_repr, Int.repr_eq_if]
  split
  · exact Nat.repr_ne_empty
  · simp

/-- A variable always gives a text, and an empty one only if it is empty itself. -/
theorem exists_text?_ofVariable (v : String) :
    ∃ text, (ofVariable v).text? = some text ∧ (v ≠ "" → text ≠ "") := by
  unfold ofVariable
  split
  · exact ⟨_, rfl, fun _ => by decide⟩
  · split
    · exact ⟨_, rfl, fun _ => by decide⟩
    · split
      · split
        · exact ⟨_, rfl, fun _ => toString_ne_empty _⟩
        · exact ⟨_, rfl, fun _ => text_ne_empty _⟩
      · split
        · exact ⟨_, rfl, fun _ => text_ne_empty _⟩
        · exact ⟨_, rfl, id⟩

/-- The characters that numerals are made of. -/
def IsNumeralChar (c : Char) : Prop := c.isDigit = true ∨ c ∈ ['+', '-', '.', 'e', 'E']
  deriving Decidable

/-- The words that are taken for truth values or for numbers, the latter behind a sign or not. -/
def IsWord (v : String) : Prop :=
  lower v ∈ ["true", "false"] ∨
    String.ofList ((splitSign v.toList).2.map Char.toLower) ∈ ["inf", "infinity", "nan"]
  deriving Decidable

/-- A text that is no such word and has a character that no numeral has. -/
def Plain (v : String) : Prop := ¬ IsWord v ∧ ∃ c ∈ v.toList, ¬ IsNumeralChar c

theorem isNumeralChar_of_splitSign {text : List Char} {negative : Bool} {rest : List Char}
    (h : splitSign text = (negative, rest)) (digits : ∀ c ∈ rest, IsNumeralChar c) :
    ∀ c ∈ text, IsNumeralChar c := by
  unfold splitSign at h
  split at h
  · cases h
    exact List.forall_mem_cons.2 ⟨by decide, digits⟩
  · cases h
    exact List.forall_mem_cons.2 ⟨by decide, digits⟩
  · cases h
    exact digits

theorem isDigit_of_digits? {digits : List Char} {n : Nat} (h : Text.digits? digits = some n) :
    ∀ c ∈ digits, c.isDigit = true := by
  unfold Text.digits? at h
  split at h
  · rename_i all
    rw [Bool.and_eq_true, List.all_eq_true] at all
    exact all.2
  · cases h

theorem isNumeralChar_of_integer? {text : List Char} {n : Int} (h : integer? text = some n) :
    ∀ c ∈ text, IsNumeralChar c := by
  cases signed : splitSign text with
  | mk negative digits =>
    rw [integer?, signed] at h
    obtain ⟨m, found, -⟩ := Option.bind_eq_some_iff.1 h
    exact isNumeralChar_of_splitSign signed fun c hc => .inl (isDigit_of_digits? found c hc)

theorem isNumeralChar_of_exponent? {text : List Char} {n : Int} (h : exponent? text = some n) :
    ∀ c ∈ text, IsNumeralChar c := by
  unfold exponent? at h
  split at h
  · nofun
  · rename_i e rest
    split at h
    · rename_i letter
      have letter : e = 'e' ∨ e = 'E' := by simpa using letter
      refine List.forall_mem_cons.2 ⟨?_, isNumeralChar_of_integer? h⟩
      obtain rfl | rfl := letter <;> decide
    · cases h

theorem isNumeralChar_of_digits {text : List Char}
    (h : ∀ c ∈ text.dropWhile Char.isDigit, IsNumeralChar c) : ∀ c ∈ text, IsNumeralChar c := by
  have digits : ∀ c ∈ text.takeWhile Char.isDigit, IsNumeralChar c := fun c hc =>
    .inl (List.all_eq_true.1 List.all_takeWhile c hc)
  have all := List.forall_mem_append.2 ⟨digits, h⟩
  rwa [List.takeWhile_append_dropWhile] at all

theorem isNumeralChar_of_binary64? {v : String} {x : Binary64} (word : ¬ IsWord v)
    (h : binary64? v.toList = some x) : ∀ c ∈ v.toList, IsNumeralChar c := by
  cases signed : splitSign v.toList with
  | mk negative text =>
    refine isNumeralChar_of_splitSign signed ?_
    simp only [IsWord, signed, List.mem_cons, List.not_mem_nil, or_false, not_or] at word
    obtain ⟨-, not_inf, not_infinity, not_nan⟩ := word
    have not_infinite : ¬ String.ofList (text.map Char.toLower) ∈ ["inf", "infinity"] := by
      simp [not_inf, not_infinity]
    simp only [binary64?, signed, if_neg not_infinite, if_neg not_nan] at h
    refine isNumeralChar_of_digits ?_
    split at h
    · rename_i rest point
      split at h
      · cases h
      · obtain ⟨power, hpower, -⟩ := Option.bind_eq_some_iff.1 h
        rw [point]
        exact List.forall_mem_cons.2
          ⟨by decide, isNumeralChar_of_digits (isNumeralChar_of_exponent? hpower)⟩
    · split at h
      · cases h
      · obtain ⟨power, hpower, -⟩ := Option.bind_eq_some_iff.1 h
        exact isNumeralChar_of_exponent? hpower

/-- What is not spelt like a truth value or a number is taken as it is. -/
theorem text?_ofVariable_of_plain {v : String} (h : Plain v) :
    (ofVariable v).text? = some v := by
  obtain ⟨word, c, mem, strange⟩ := h
  have not_true : lower v ≠ "true" := fun h => word (.inl (by simp [h]))
  have not_false : lower v ≠ "false" := fun h => word (.inl (by simp [h]))
  have no_integer : integer? v.toList = none :=
    Option.eq_none_iff_forall_ne_some.2 fun n h => strange (isNumeralChar_of_integer? h c mem)
  have no_float : binary64? v.toList = none :=
    Option.eq_none_iff_forall_ne_some.2 fun x h => strange (isNumeralChar_of_binary64? word h c mem)
  rw [ofVariable, if_neg not_true, if_neg not_false, no_integer, no_float]
  rfl

end Value

theorem Environment.setting?_of_start {name key : String}
    (start : settingStart.toList.isPrefixOf (lowerName name) = true)
    (rest : String.ofList (pointed ((lowerName name).drop settingStart.length)) = key)
    (v : String) : setting? name v = some (key, .ofVariable v) := by
  simp only [setting?, if_pos start, rest]

theorem Environment.setting?_of_not_start {name : String}
    (start : ¬ settingStart.toList.isPrefixOf (lowerName name) = true) (v : String) :
    setting? name v = none := by
  simp only [setting?, if_neg start]

/-! ## Text fields -/

/-- The fields of the two sections that hold texts other than addresses and paths. -/
inductive TextField where
  | apiKey
  | machineVersion
  | imageId
  | privateKey
  | circuitVersion

namespace TextField

/-- The names that lead to the field: that of its section and its own. -/
def names : TextField → List String
  | apiKey => ["bonsai", "api_key"]
  | machineVersion => ["bonsai", "risc0_version"]
  | imageId => ["bonsai", "image_id"]
  | privateKey => ["sp1", "private_key"]
  | circuitVersion => ["sp1", "version"]

/-- The variable that sets the field. -/
def variableName : TextField → String
  | apiKey => "ZKDCAP__BONSAI__API_KEY"
  | machineVersion => "ZKDCAP__BONSAI__RISC0_VERSION"
  | imageId => "ZKDCAP__BONSAI__IMAGE_ID"
  | privateKey => "ZKDCAP__SP1__PRIVATE_KEY"
  | circuitVersion => "ZKDCAP__SP1__VERSION"

/-- The text of the field, if its section is there. -/
def get : TextField → Backends → Option String
  | apiKey, c => c.bonsai.map Bonsai.apiKey
  | machineVersion, c => c.bonsai.map Bonsai.version
  | imageId, c => c.bonsai.map Bonsai.imageId
  | privateKey, c => c.succinct.map Succinct.privateKey
  | circuitVersion, c => c.succinct.map Succinct.version

/-- The setting that the variable makes. -/
def key (f : TextField) : String := ".".intercalate f.names

theorem setting?_variableName (f : TextField) (v : String) :
    Environment.setting? f.variableName v = some (f.key, .ofVariable v) := by
  cases f <;> exact Environment.setting?_of_start (by decide +kernel) (by decide +kernel) v

theorem pathOf_key (f : TextField) : Value.pathOf f.key = f.names.map .entry := by
  cases f <;> rfl

end TextField

/-! ## Fields of a configuration -/

theorem Bonsai.ofValue_table {entries : List (String × Value)} {b : Bonsai}
    (h : Bonsai.ofValue (.table entries) = some b) :
    Value.fieldOr "" Value.text? (entries.lookup "api_key") = some b.apiKey ∧
    Value.fieldOr "" Value.text? (entries.lookup "risc0_version") = some b.version ∧
    Value.fieldOr "" Value.text? (entries.lookup "image_id") = some b.imageId := by
  simp only [Bonsai.ofValue, Value.fields?, List.map_cons, List.map_nil, Option.bind_eq_bind,
    Option.bind_some, Option.bind_eq_some_iff] at h
  obtain ⟨_, -, _, key, _, version, _, image, _, -, _, -, h⟩ := h
  cases h
  exact ⟨key, version, image⟩

theorem Succinct.ofValue_table {entries : List (String × Value)} {s : Succinct}
    (h : Succinct.ofValue (.table entries) = some s) :
    Value.fieldOr "" Value.text? (entries.lookup "private_key") = some s.privateKey ∧
    Value.fieldOr "" Value.text? (entries.lookup "version") = some s.version := by
  simp only [Succinct.ofValue, Value.fields?, List.map_cons, List.map_nil, Option.bind_eq_bind,
    Option.bind_some, Option.bind_eq_some_iff] at h
  obtain ⟨_, -, _, key, _, -, _, -, _, version, _, -, h⟩ := h
  cases h
  exact ⟨key, version⟩

/-- A setting in a section makes the section a table, which is read as one. -/
theorem Backends.exists_of_sectionOf {α : Type} {read : Value → Option α} {value new : Value}
    {name field : String} {result : Option α} (found : value.at? [name, field] = some new)
    (h : Backends.sectionOf read (value.entries.lookup name) = some result) :
    ∃ fields a, fields.lookup field = some new ∧ result = some a ∧
      read (.table fields) = some a := by
  obtain ⟨inner, hsection, found⟩ := Option.bind_eq_some_iff.1 found
  obtain ⟨new', hfield, ⟨⟩⟩ := Option.bind_eq_some_iff.1 found
  rw [hsection] at h
  cases inner with
  | table fields =>
    obtain ⟨a, ha, rfl⟩ := Option.map_eq_some_iff.1 h
    exact ⟨fields, a, hfield, rfl, ha⟩
  | _ => cases hfield

namespace TextField

/-- A setting at the names of a field is read as its text. -/
theorem get_ofValue {f : TextField} {value new : Value} {c : Backends}
    (found : value.at? f.names = some new) (h : Backends.ofValue value = some c) :
    ∃ text, new.text? = some text ∧ f.get c = some text := by
  simp only [Backends.ofValue, Option.bind_eq_bind, Option.bind_eq_some_iff] at h
  obtain ⟨bonsai, hbonsai, succinct, hsuccinct, h⟩ := h
  cases h
  have taken {fields : List (String × Value)} {field text : String}
      (hfield : fields.lookup field = some new)
      (read : Value.fieldOr "" Value.text? (fields.lookup field) = some text) :
      new.text? = some text := by
    rwa [hfield] at read
  cases f with
  | apiKey =>
    obtain ⟨fields, b, hfield, rfl, read⟩ := Backends.exists_of_sectionOf found hbonsai
    exact ⟨_, taken hfield (Bonsai.ofValue_table read).1, rfl⟩
  | machineVersion =>
    obtain ⟨fields, b, hfield, rfl, read⟩ := Backends.exists_of_sectionOf found hbonsai
    exact ⟨_, taken hfield (Bonsai.ofValue_table read).2.1, rfl⟩
  | imageId =>
    obtain ⟨fields, b, hfield, rfl, read⟩ := Backends.exists_of_sectionOf found hbonsai
    exact ⟨_, taken hfield (Bonsai.ofValue_table read).2.2, rfl⟩
  | privateKey =>
    obtain ⟨fields, s, hfield, rfl, read⟩ := Backends.exists_of_sectionOf found hsuccinct
    exact ⟨_, taken hfield (Succinct.ofValue_table read).1, rfl⟩
  | circuitVersion =>
    obtain ⟨fields, s, hfield, rfl, read⟩ := Backends.exists_of_sectionOf found hsuccinct
    exact ⟨_, taken hfield (Succinct.ofValue_table read).2, rfl⟩

/-- A text that completing a section keeps is there behind the check for a key, too. -/
theorem eq_of_filter_complete {α : Type} {complete : α → α} {configured : α → Bool} {empty : α}
    {part : Option α} {field : α → String} {text text' : String}
    (keeps : ∀ a, KeepsText (field a) (field (complete a)))
    (given : part.map field = some text) (filled : text ≠ "")
    (h : ((some (complete (part.getD empty))).filter configured).map field = some text') :
    text' = text := by
  obtain ⟨a, rfl, rfl⟩ := Option.map_eq_some_iff.1 given
  obtain ⟨a', stays, rfl⟩ := Option.map_eq_some_iff.1 h
  obtain ⟨completed, -⟩ := Option.filter_eq_some_iff.1 stays
  rw [← Option.some.inj completed]
  exact keeps a filled

/-- A field that is not empty is kept when the configuration is completed. -/
theorem get_complete {f : TextField} {environment : Environment} {c : Backends}
    {text text' : String} (given : f.get c = some text) (filled : text ≠ "")
    (h : f.get (c.complete environment) = some text') : text' = text := by
  have bonsai := Bonsai.keeps_complete environment
  have succinct := Succinct.keeps_complete environment
  cases f with
  | apiKey => exact eq_of_filter_complete (fun b => (bonsai b).apiKey) given filled h
  | machineVersion => exact eq_of_filter_complete (fun b => (bonsai b).version) given filled h
  | imageId => exact eq_of_filter_complete (fun b => (bonsai b).imageId) given filled h
  | privateKey => exact eq_of_filter_complete (fun s => (succinct s).privateKey) given filled h
  | circuitVersion => exact eq_of_filter_complete (fun s => (succinct s).version) given filled h

end TextField

/-! ## Loading -/

theorem Backends.exists_of_load {file : Option Bytes} {environment : Environment} {c : Backends}
    (h : Backends.load file environment = some c) :
    ∃ old given, Backends.ofValue (Value.overAll environment.settings old) = some given ∧
      given.complete environment = c := by
  have laid (entries : Option (List (String × Value)))
      (h : (entries.bind fun entries => Backends.ofEntries entries environment) = some c) :
      ∃ old given, Backends.ofValue (Value.overAll environment.settings old) = some given ∧
        given.complete environment = c := by
    obtain ⟨entries, -, h⟩ := Option.bind_eq_some_iff.1 h
    obtain ⟨given, read, h⟩ := Option.bind_eq_some_iff.1 h
    exact ⟨_, given, read, Option.some.inj h⟩
  cases file with
  | none => exact laid (some []) h
  | some contents => exact laid (jsonEntries (fileText contents)) h

/-- A variable for a text field, with no other one that sets the field, its section or a part of it,
decides the field, whatever the file says: if the section is there, the field holds the text of the
value that the variable is taken for.  A variable that is spelt like neither a truth value nor a
number is taken for its own text. -/
theorem load_takes_variable {f : TextField} {v : String} {file : Option Bytes}
    {environment : Environment} {c : Backends} {text : String} (filled : v ≠ "")
    (set : (f.variableName, v) ∈ environment)
    (alone : ∀ entry ∈ environment, entry ≠ (f.variableName, v) →
      ∀ setting ∈ Environment.setting? entry.1 entry.2,
        Value.Apart (Value.pathOf setting.1) f.names)
    (loaded : Backends.load file environment = some c) (present : f.get c = some text) :
    (Value.ofVariable v).text? = some text ∧ (Value.Plain v → text = v) := by
  have settings : ∀ setting ∈ environment.settings,
      Value.Agrees f.names (Value.ofVariable v) setting := by
    intro setting mem
    obtain ⟨entry, hentry, made⟩ := List.mem_filterMap.1 mem
    by_cases same : entry = (f.variableName, v)
    · subst same
      obtain rfl := Option.some.inj ((f.setting?_variableName v).symm.trans made)
      exact .inl ⟨f.pathOf_key, rfl⟩
    · exact .inr (alone entry hentry same setting made)
  have mem : (f.key, Value.ofVariable v) ∈ environment.settings :=
    List.mem_filterMap.2 ⟨_, set, f.setting?_variableName v⟩
  obtain ⟨old, given, read, rfl⟩ := Backends.exists_of_load loaded
  have found : (Value.overAll environment.settings old).at? f.names = some (.ofVariable v) :=
    Value.at?_overAll (Value.replaces_ofVariable v) settings f.pathOf_key mem
  obtain ⟨taken, htaken, hgiven⟩ := TextField.get_ofValue found read
  obtain ⟨_, htext, nonempty⟩ := Value.exists_text?_ofVariable v
  obtain rfl := Option.some.inj (htext.symm.trans htaken)
  obtain rfl := TextField.get_complete hgiven (nonempty filled) present
  refine ⟨htext, fun plain => ?_⟩
  exact Option.some.inj (htext.symm.trans (Value.text?_ofVariable_of_plain plain))

namespace Sample

/-- A file with a version. -/
def file : Bytes := Text.Utf8.encode "\x7b\"bonsai\":\x7b\"risc0_version\":\"1.1.2\"\x7d\x7d"

/-- A version, which is spelt like no number, among other variables. -/
def overrides : Environment :=
  [("ZKDCAP__BONSAI__API_URL", "http://localhost"), ("ZKDCAP__BONSAI__RISC0_VERSION", "1.2.0-rc.1"),
    ("BONSAI_API_KEY", "0123")]

end Sample

theorem load_takes_variable_sample :
    ∃ c, Backends.load (some Sample.file) Sample.overrides = some c ∧
      TextField.machineVersion.get c = some "1.2.0-rc.1" := by
  have alone : ∀ entry ∈ Sample.overrides,
      entry ≠ (TextField.machineVersion.variableName, "1.2.0-rc.1") →
      ∀ setting ∈ Environment.setting? entry.1 entry.2,
        Value.Apart (Value.pathOf setting.1) TextField.machineVersion.names := by
    intro entry mem different setting made
    simp only [Sample.overrides, List.mem_cons, List.not_mem_nil, or_false] at mem
    obtain rfl | rfl | rfl := mem
    · have url : Environment.setting? "ZKDCAP__BONSAI__API_URL" "http://localhost" =
          some ("bonsai.api_url", _) :=
        Environment.setting?_of_start (by decide +kernel) (by decide +kernel) _
      obtain rfl := Option.some.inj (url.symm.trans made)
      exact .deeper (.here (by decide))
    · exact absurd rfl different
    · have other : Environment.setting? "BONSAI_API_KEY" "0123" = none :=
        Environment.setting?_of_not_start (by decide +kernel) _
      cases other.symm.trans made
  have loads : ((Backends.load (some Sample.file) Sample.overrides).bind
      TextField.machineVersion.get).isSome = true := by decide +kernel
  obtain ⟨text, found⟩ := Option.isSome_iff_exists.1 loads
  obtain ⟨c, loaded, present⟩ := Option.bind_eq_some_iff.1 found
  have plain : Value.Plain "1.2.0-rc.1" := ⟨by decide +kernel, 'r', by decide +kernel⟩
  have taken := load_takes_variable (f := .machineVersion) (v := "1.2.0-rc.1") (by decide)
    (by decide +kernel) alone loaded present
  exact ⟨c, loaded, present.trans (congrArg some (taken.2 plain))⟩

/-- Digits are taken for a number, whose numeral has no zeros in front. -/
theorem load_changes_digits :
    (TextField.privateKey.variableName, "0123") ∈ [("ZKDCAP__SP1__PRIVATE_KEY", "0123")] ∧
      (Backends.load none [("ZKDCAP__SP1__PRIVATE_KEY", "0123")]).bind TextField.privateKey.get =
        some "123" := by
  decide +kernel

end QuoteProver.Config
