import QuoteProver.Collateral.Fetch
import QuoteProver.Proofs.Collateral.Encoding
import QuoteProver.Proofs.Quote.Keys

/-!
# The course of fetching

`plan` lists the calls that the collateral of a quote needs.  `Fetches` says how fetching it goes, by
the answers of the source alone: a quote without keys makes no call, the first call of the plan that
is refused is the last one and decides the failure, and when all are answered the answers are put in
their places.  `fetch_course` says that fetching goes in exactly this way.  The calls of a plan are
all different, so it does not matter whether a source would answer one in the same way again.
-/

namespace QuoteProver.Collateral

open Quote (Layout Identifies)

/-! ## Plans and answers -/

/-- The calls for a quote of the given layout, from a platform whose certificate the given authority
has issued. -/
def plan (layout : Layout) (authority : Authority) (fmspc : Bytes) : List Call :=
  [.tcbInfo layout.tcbKind (Text.Hex.encode fmspc) layout.tcbVersion,
    .enclaveIdentity layout.enclaveKind layout.version,
    .certificate .root, .certificate .signing, .certificate authority]

/-- The answers to the calls of a plan. -/
structure Answers where
  tcbInfo : SignedRecord
  identity : SignedRecord
  root : CertificateAndCrl
  signing : CertificateAndCrl
  issuer : CertificateAndCrl

/-- The source gives these answers. -/
structure Answered (source : Source) (layout : Layout) (authority : Authority) (fmspc : Bytes)
    (a : Answers) : Prop where
  tcbInfo : source (.tcbInfo layout.tcbKind (Text.Hex.encode fmspc) layout.tcbVersion) =
    .ok a.tcbInfo
  identity : source (.enclaveIdentity layout.enclaveKind layout.version) = .ok a.identity
  root : source (.certificate .root) = .ok a.root
  signing : source (.certificate .signing) = .ok a.signing
  issuer : source (.certificate authority) = .ok a.issuer

/-- The answers are in their places.  For the revocation list of the issuing authority there are two,
and the other one is empty. -/
structure Assembles (authority : Authority) (a : Answers) (c : Collateral) : Prop where
  tcbInfo : c.tcbInfo = Text.Utf8.encode (a.tcbInfo.encode .tcbInfo)
  qeIdentity : c.qeIdentity = Text.Utf8.encode (a.identity.encode .enclaveIdentity)
  rootCertificate : c.rootCertificate = a.root.certificate
  rootCrl : c.rootCrl = a.root.crl
  signingCertificate : c.signingCertificate = a.signing.certificate
  issuerCrl : (authority = .processor ∧ c.processorCrl = a.issuer.crl ∧ c.platformCrl = []) ∨
    (authority = .platform ∧ c.platformCrl = a.issuer.crl ∧ c.processorCrl = [])

/-- How fetching goes: the calls that are made, in their order, and what comes of them. -/
inductive Fetches (source : Source) (q : Quote) (debugging : Bool) :
    (made : List Call) → (result : Except Failure Collateral) → Prop
  | unfiled {failure : Quote.Failure} : q.collateralKeys = .error failure →
      Fetches source q debugging [] (.error (.quote failure))
  | refused {authority : Authority} {fmspc : Bytes} {before after : List Call} {call : Call}
      {reasons : List String} : Identifies q.chainData authority fmspc →
      plan q.layout authority fmspc = before ++ call :: after →
      (∀ earlier ∈ before, ∃ answer, source earlier = .ok answer) → source call = .error reasons →
      Fetches source q debugging (before ++ [call]) (.error (.source call.item reasons))
  | assembled {authority : Authority} {fmspc : Bytes} {a : Answers} {c : Collateral} :
      Identifies q.chainData authority fmspc → Answered source q.layout authority fmspc a →
      Assembles authority a c → (debugging = true → ∀ field ∈ c.fields, field.length < 2 ^ 32) →
      Fetches source q debugging (plan q.layout authority fmspc) (.ok c)
  | tooLarge {authority : Authority} {fmspc : Bytes} {a : Answers} {c : Collateral} {name : String}
      {field : Bytes} : Identifies q.chainData authority fmspc →
      Answered source q.layout authority fmspc a → Assembles authority a c → debugging = true →
      FirstWith (fun part => 2 ^ 32 ≤ part.2.length) (fieldNames.zip c.fields) (name, field) →
      Fetches source q debugging (plan q.layout authority fmspc)
        (.error (.fieldTooLarge name field.length))

/-! ## Single steps -/

section Steps

variable {α β : Type} {source : Source} {noted : List Call}

theorem run_orFail_bind_ok {x : Except Failure α} {f : α → Fetching β} {a : α} (h : x = .ok a) :
    (orFail x >>= f).run.run noted = (f a).run.run noted := by
  rw [h]
  rfl

theorem run_orFail_bind_error {x : Except Failure α} {f : α → Fetching β} {failure : Failure}
    (h : x = .error failure) : (orFail x >>= f).run.run noted = (.error failure, noted) := by
  rw [h]
  rfl

theorem run_ask_bind_ok {call : Call} {f : call.Answer → Fetching β} {answer : call.Answer}
    (h : source call = .ok answer) :
    (ask source call >>= f).run.run noted = (f answer).run.run (noted ++ [call]) := by
  rw [ask, h]
  rfl

theorem run_ask_bind_error {call : Call} {f : call.Answer → Fetching β} {reasons : List String}
    (h : source call = .error reasons) :
    (ask source call >>= f).run.run noted =
      (.error (.source call.item reasons), noted ++ [call]) := by
  rw [ask, h]
  rfl

/-- The first call of the plan that is refused is the last one that the work makes. -/
structure StopsAtRefusal (source : Source) (x : Fetching α) (calls : List Call) : Prop where
  stops {before after : List Call} {call : Call} {reasons : List String} (noted : List Call) :
    calls = before ++ call :: after → (∀ earlier ∈ before, ∃ answer, source earlier = .ok answer) →
    source call = .error reasons →
    x.run.run noted = (.error (.source call.item reasons), noted ++ (before ++ [call]))

namespace StopsAtRefusal

theorem nil (x : Fetching α) : StopsAtRefusal source x [] where
  stops noted split := by simp at split

theorem orFail_bind {x : Except Failure α} {f : α → Fetching β} {value : α} {calls : List Call}
    (hx : x = .ok value) (h : StopsAtRefusal source (f value) calls) :
    StopsAtRefusal source (orFail x >>= f) calls where
  stops noted split answered refused := by
    rw [run_orFail_bind_ok hx]
    exact h.stops noted split answered refused

theorem ask_bind {call : Call} {f : call.Answer → Fetching β} {calls : List Call}
    (h : ∀ answer, StopsAtRefusal source (f answer) calls) :
    StopsAtRefusal source (ask source call >>= f) (call :: calls) where
  stops {before after refused reasons} noted split answered hrefused := by
    -- The refused call is this one, or this one is answered and it is one of those behind.
    cases before with
    | nil =>
      obtain ⟨rfl, rfl⟩ := List.cons.inj split
      exact run_ask_bind_error hrefused
    | cons first before =>
      rw [List.cons_append] at split
      obtain ⟨rfl, hcalls⟩ := List.cons.inj split
      obtain ⟨⟨answer, hanswer⟩, answered⟩ := List.forall_mem_cons.1 answered
      have later := (h answer).stops (noted ++ [call]) hcalls answered hrefused
      rw [run_ask_bind_ok hanswer, later, List.append_assoc, List.cons_append, List.nil_append,
        List.cons_append]

end StopsAtRefusal

/-- Of some calls either all are answered, or there is a first one that is refused. -/
theorem all_answered_or_refused (source : Source) (calls : List Call) :
    (∀ call ∈ calls, ∃ answer, source call = .ok answer) ∨
      ∃ before call after reasons, calls = before ++ call :: after ∧
        (∀ earlier ∈ before, ∃ answer, source earlier = .ok answer) ∧
        source call = .error reasons := by
  induction calls with
  | nil => exact .inl (by simp)
  | cons first calls ih =>
    cases hfirst : source first with
    | error reasons => exact .inr ⟨[], first, calls, reasons, rfl, by simp, hfirst⟩
    | ok answer =>
      have head : ∃ answer, source first = .ok answer := ⟨answer, hfirst⟩
      rcases ih with all | ⟨before, call, after, reasons, rfl, answered, refused⟩
      · exact .inl (List.forall_mem_cons.2 ⟨head, all⟩)
      · exact .inr ⟨first :: before, call, after, reasons, rfl,
          List.forall_mem_cons.2 ⟨head, answered⟩, refused⟩

end Steps

/-! ## The whole course -/

section Course

variable {source : Source} {q : Quote} {layout : Layout} {debugging : Bool} {authority : Authority}
  {fmspc : Bytes} {a : Answers} {c : Collateral}

theorem authority_of_identifies {data : Bytes} (h : Identifies data authority fmspc) :
    authority = .platform ∨ authority = .processor := by
  obtain ⟨_, _, _, _, _, -, issued, -⟩ := h
  exact issued.authority

theorem exists_answered
    (h : ∀ call ∈ plan q.layout authority fmspc, ∃ answer, source call = .ok answer) :
    ∃ a, Answered source q.layout authority fmspc a := by
  simp only [plan, List.forall_mem_cons] at h
  obtain ⟨⟨tcbInfo, h₁⟩, ⟨identity, h₂⟩, ⟨root, h₃⟩, ⟨signing, h₄⟩, ⟨issuer, h₅⟩, -⟩ := h
  exact ⟨⟨tcbInfo, identity, root, signing, issuer⟩, h₁, h₂, h₃, h₄, h₅⟩

/-- The collateral that the answers make up. -/
def Answers.collateral (a : Answers) (authority : Authority) : Collateral where
  tcbInfo := Text.Utf8.encode (a.tcbInfo.encode .tcbInfo)
  qeIdentity := Text.Utf8.encode (a.identity.encode .enclaveIdentity)
  rootCertificate := a.root.certificate
  signingCertificate := a.signing.certificate
  rootCrl := a.root.crl
  processorCrl := if authority = .processor then a.issuer.crl else []
  platformCrl := if authority = .processor then [] else a.issuer.crl

theorem assembles_iff (h : authority = .platform ∨ authority = .processor) :
    Assembles authority a c ↔ c = a.collateral authority := by
  constructor
  · rintro ⟨h₁, h₂, h₃, h₄, h₅, issuer⟩
    cases c
    rcases issuer with ⟨rfl, h₆, h₇⟩ | ⟨rfl, h₆, h₇⟩ <;> simp_all [Answers.collateral]
  · rintro rfl
    refine ⟨rfl, rfl, rfl, rfl, rfl, ?_⟩
    rcases h with rfl | rfl
    · exact .inr ⟨rfl, rfl, rfl⟩
    · exact .inl ⟨rfl, rfl, rfl⟩

theorem filed_of_identifies (h : Identifies q.chainData authority fmspc) :
    q.collateralKeys.mapError Failure.quote = .ok (q.layout.keys authority fmspc) :=
  mapError_eq_ok_iff.2 (Quote.collateralKeys_eq_ok_iff.2 ⟨authority, fmspc, h, rfl⟩)

/-- The collateral, after a look at its encoding when debugging. -/
theorem run_checked (c : Collateral) (noted : List Call) :
    (do
      if debugging then
        let _ ← orFail c.encode
      return c : Fetching Collateral).run.run noted =
      (if debugging then c.encode.map fun _ => c else .ok c, noted) := by
  cases debugging with
  | false => rfl
  | true => cases c.encode with
    | ok encoded => exact run_orFail_bind_ok rfl
    | error failure => exact run_orFail_bind_error rfl

theorem run_answered (filed : Identifies q.chainData authority fmspc)
    (h : Answered source q.layout authority fmspc a) (noted : List Call) :
    (fetch source q debugging).run.run noted =
      (if debugging then (a.collateral authority).encode.map fun _ => a.collateral authority
        else .ok (a.collateral authority), noted ++ plan q.layout authority fmspc) := by
  refine (run_orFail_bind_ok (filed_of_identifies filed)).trans ?_
  refine (run_ask_bind_ok h.tcbInfo).trans ?_
  refine (run_ask_bind_ok h.identity).trans ?_
  refine (run_ask_bind_ok h.root).trans ?_
  refine (run_ask_bind_ok h.signing).trans ?_
  refine (run_ask_bind_ok h.issuer).trans ?_
  refine (run_checked (a.collateral authority) _).trans ?_
  simp only [plan, List.append_assoc, List.cons_append, List.nil_append]

theorem fetch_stopsAtRefusal (filed : Identifies q.chainData authority fmspc) :
    StopsAtRefusal source (fetch source q debugging) (plan q.layout authority fmspc) := by
  refine .orFail_bind (filed_of_identifies filed) ?_
  exact .ask_bind fun tcbInfo => .ask_bind fun identity => .ask_bind fun root =>
    .ask_bind fun signing => .ask_bind fun issuer => .nil _

theorem Fetches.run {made : List Call} {result : Except Failure Collateral}
    (h : Fetches source q debugging made result) (noted : List Call) :
    (fetch source q debugging).run.run noted = (result, noted ++ made) := by
  cases h with
  | unfiled failed =>
    have failed' : q.collateralKeys.mapError Failure.quote = .error _ :=
      mapError_eq_error_iff.2 ⟨_, failed, rfl⟩
    rw [List.append_nil]
    exact run_orFail_bind_error failed'
  | refused filed split answered refused =>
    exact (fetch_stopsAtRefusal filed).stops noted split answered refused
  | assembled filed answered assembles fits =>
    obtain rfl := (assembles_iff (authority_of_identifies filed)).1 assembles
    rw [run_answered filed answered]
    cases debugging with
    | false => rfl
    | true =>
      have encoded := encode_eq_ok_iff.2 ⟨fits rfl, rfl⟩
      rw [if_pos rfl, encoded]
      rfl
  | tooLarge filed answered assembles debugs first =>
    obtain rfl := (assembles_iff (authority_of_identifies filed)).1 assembles
    have failed := encode_eq_error_iff.2 ⟨_, _, first, rfl⟩
    rw [run_answered filed answered, if_pos debugs, failed]
    rfl

theorem exists_fetches (source : Source) (q : Quote) (debugging : Bool) :
    ∃ made result, Fetches source q debugging made result := by
  cases keys : q.collateralKeys with
  | error failure => exact ⟨_, _, .unfiled keys⟩
  | ok keys =>
    obtain ⟨authority, fmspc, filed, rfl⟩ := Quote.collateralKeys_eq_ok_iff.1 keys
    rcases all_answered_or_refused source (plan q.layout authority fmspc) with
      all | ⟨before, call, after, reasons, split, answered, refused⟩
    · obtain ⟨a, answered⟩ := exists_answered all
      have assembles := (assembles_iff (a := a) (authority_of_identifies filed)).2 rfl
      -- The encoding decides only when debugging, and then by the same lengths.
      cases encoded : (a.collateral authority).encode with
      | ok bytes =>
        have fits := (encode_eq_ok_iff.1 encoded).1
        exact ⟨_, _, .assembled filed answered assembles fun _ => fits⟩
      | error failure =>
        obtain ⟨name, field, first, -⟩ := encode_eq_error_iff.1 encoded
        cases debugs : debugging with
        | false => exact ⟨_, _, .assembled filed answered assembles nofun⟩
        | true => exact ⟨_, _, .tooLarge filed answered assembles rfl first⟩
    · exact ⟨_, _, .refused filed split answered refused⟩

theorem plan_nodup (h : authority = .platform ∨ authority = .processor) :
    (plan layout authority fmspc).Nodup := by
  rcases h with rfl | rfl <;> simp [plan]

theorem Fetches.made_prefix {made : List Call} {result : Except Failure Collateral}
    (h : Fetches source q debugging made result) :
    (made = [] ∧ ∃ failure, q.collateralKeys = .error failure) ∨
      ∃ authority fmspc, Identifies q.chainData authority fmspc ∧ made ≠ [] ∧
        made <+: plan q.layout authority fmspc := by
  cases h with
  | unfiled failed => exact .inl ⟨rfl, _, failed⟩
  | @refused _ _ before after call _ filed split =>
    have front : before ++ [call] <+: plan q.layout _ _ :=
      ⟨after, by rw [split, List.append_assoc, List.singleton_append]⟩
    exact .inr ⟨_, _, filed, by simp, front⟩
  | assembled filed => exact .inr ⟨_, _, filed, by simp [plan], List.prefix_rfl⟩
  | tooLarge filed => exact .inr ⟨_, _, filed, by simp [plan], List.prefix_rfl⟩

theorem Fetches.made_nodup {made : List Call} {result : Except Failure Collateral}
    (h : Fetches source q debugging made result) : made.Nodup := by
  rcases h.made_prefix with ⟨rfl, -⟩ | ⟨authority, fmspc, filed, -, front⟩
  · exact List.nodup_nil
  · exact (plan_nodup (authority_of_identifies filed)).sublist front.sublist

end Course

/-- Fetching goes as the answers of the source determine.  Without keys nothing is asked for; otherwise
the calls are the first ones of the plan, at least one of them and none twice. -/
theorem fetch_course (source : Source) (q : Quote) (debugging : Bool) :
    (∃ made result, Fetches source q debugging made result) ∧
    (∀ noted made result, (fetch source q debugging).run.run noted = (result, noted ++ made) ↔
      Fetches source q debugging made result) ∧
    ∀ made result, Fetches source q debugging made result → made.Nodup ∧
      ((made = [] ∧ ∃ failure, q.collateralKeys = .error failure) ∨
        ∃ authority fmspc, Identifies q.chainData authority fmspc ∧ made ≠ [] ∧
          made <+: plan q.layout authority fmspc) := by
  refine ⟨exists_fetches source q debugging, fun noted made result => ⟨fun ran => ?_, fun h => ?_⟩,
    fun made result h => ⟨h.made_nodup, h.made_prefix⟩⟩
  · obtain ⟨made', result', h⟩ := exists_fetches source q debugging
    obtain ⟨rfl, same⟩ := Prod.mk.inj (ran.symm.trans (h.run noted))
    obtain rfl := List.append_cancel_left same
    exact h
  · exact h.run noted

end QuoteProver.Collateral
