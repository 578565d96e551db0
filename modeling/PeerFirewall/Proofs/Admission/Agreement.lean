import PeerFirewall.Admission.Service
import PeerFirewall.Proofs.Admission.DnsLabel
import PeerFirewall.Proofs.Compile.Outcome

/-!
# What is admitted can be compiled

Policies are checked twice by different code: when they are stored, and when they are compiled. The
rules that are valid are those all of whose parties can be matched and name namespaces by labels of
the DNS (`Resolvers.validate_ok_iff`), and rules whose parties can be matched are compiled unless a
read of the cluster fails (`Resolvers.compile_failsOnly`). So a policy that is admitted fails later
for lack of an answer only (`Admission.judge_agrees`).
-/
namespace PeerFirewall

/-! ### Valid rules -/

namespace Resolvers

variable {resolvers : Resolvers}

/-- Whether a party can be matched and names a namespace, if it does, by a label of the DNS. -/
structure Resolves (resolvers : Resolvers) (party : Party) : Prop where
  matched : ∃ strategy, resolvers.strategy party = .ok strategy
  labelled : ∀ name, party.namespace = some name → DnsLabel name

/-- A party has no fault just where it can be matched and is named as it should be. -/
theorem partyFault_eq_none_iff {party : Party} :
    resolvers.partyFault party = none ↔ resolvers.Resolves party := by
  obtain ⟨group, name⟩ := party
  cases group with
  | some group =>
    cases name with
    | some name =>
      refine ⟨nofun, fun resolves => ?_⟩
      obtain ⟨strategy, matched⟩ := resolves.matched
      cases matched
    | none =>
      by_cases enabled : resolvers.isEnabled group
      · simp only [partyFault, enabled, if_true, true_iff]
        exact ⟨⟨.ofGroup group, by simp [strategy, enabled]⟩, nofun⟩
      · have fault : resolvers.partyFault ⟨some group, none⟩ = some (.disabledGroup group) := by
          simp [partyFault, enabled]
        rw [fault]
        refine ⟨nofun, fun resolves => ?_⟩
        obtain ⟨strategy, matched⟩ := resolves.matched
        simp [Resolvers.strategy, enabled] at matched
  | none =>
    cases name with
    | none =>
      refine ⟨nofun, fun resolves => ?_⟩
      obtain ⟨strategy, matched⟩ := resolves.matched
      cases matched
    | some name =>
      simp only [partyFault, ite_eq_left_iff, reduceCtorEq, imp_false, not_not, isDnsLabel_iff]
      constructor
      · intro label
        refine ⟨⟨.set (.ofNamespace name), ?_⟩, fun other same => Option.some.inj same ▸ label⟩
        simp [strategy, label.ne_empty]
      · exact fun resolves => resolves.labelled name rfl

/-- A side of a rule is valid just where its party, if it has one, resolves. -/
theorem validateSide_ok_iff {place : Nat} {side : Side} {party : Option Party} :
    resolvers.validateSide place side party = .ok () ↔
      ∀ present ∈ party, resolvers.Resolves present := by
  cases party with
  | none => simp [validateSide]
  | some party =>
    simp only [validateSide, Option.mem_some_iff, forall_eq', ← partyFault_eq_none_iff]
    cases resolvers.partyFault party <;> simp

/-- Rules are valid, wherever they are counted from, just where all their parties resolve. -/
theorem validateFrom_ok_iff {place : Nat} {rules : List Rule} :
    resolvers.validateFrom place rules = .ok () ↔
      ∀ rule ∈ rules, ∀ party ∈ rule.parties, resolvers.Resolves party := by
  induction rules generalizing place with
  | nil => simp [validateFrom]
  | cons rule rest ih =>
    have parties : (∀ party ∈ rule.parties, resolvers.Resolves party) ↔
        resolvers.validateSide place .source rule.source = .ok () ∧
          resolvers.validateSide place .destination rule.destination = .ok () := by
      simp only [validateSide_ok_iff, Rule.parties, List.mem_append, Option.mem_toList,
        Option.mem_def, or_imp, forall_and]
    rw [List.forall_mem_cons, parties, validateFrom]
    cases resolvers.validateSide place .source rule.source with
    | error fault => simp [bind, Except.bind]
    | ok =>
      cases resolvers.validateSide place .destination rule.destination with
      | error fault => simp [bind, Except.bind]
      | ok => simpa [bind, Except.bind] using ih

/-- Rules are valid just where all their parties resolve. -/
theorem validate_ok_iff {rules : List Rule} :
    resolvers.validate rules = .ok () ↔
      ∀ rule ∈ rules, ∀ party ∈ rule.parties, resolvers.Resolves party :=
  validateFrom_ok_iff

end Resolvers

/-! ### Rules that can be compiled -/

/-- Whether a read of the cluster may fail for that reason. -/
def Answers.fails (allowed : Answers) (cause : ReadError) : Prop :=
  (∃ query, allowed (Query.cidr query) (.error cause : Except ReadError Net.Cidr)) ∨
    ∃ query, allowed (Query.pods query) (.error cause : Except ReadError (List Pod))

/-- Whether an error blames a read of the cluster that may fail. -/
def CompileError.IsReadFailure (allowed : Answers) (error : CompileError) : Prop :=
  ∃ target cause, error = .unresolved target cause ∧ allowed.fails cause

/-- Whether a step of compilation fails for a failed read of the cluster only. -/
def Compilation.FailsOnly {α : Type} (allowed : Answers) (step : Compilation α) : Prop :=
  ∀ error, step.run.Reaches allowed (.error error) → error.IsReadFailure allowed

namespace Compilation

variable {α β : Type} {allowed : Answers}

/-- A step that does nothing does not fail. -/
theorem failsOnly_pure (a : α) : FailsOnly allowed (pure a) := by
  intro error reached
  cases reached

/-- Two steps fail for a failed read only if each does with what it may be given. -/
theorem FailsOnly.bind {step : Compilation α} {next : α → Compilation β}
    (first : FailsOnly allowed step)
    (second : ∀ a, step.run.Reaches allowed (.ok a) → FailsOnly allowed (next a)) :
    FailsOnly allowed (step >>= next) := by
  intro error reached
  rcases Program.reaches_error_bind.1 reached with failed | ⟨a, succeeded, failed⟩
  · exact first error failed
  · exact second a succeeded error failed

/-- Asking for a network fails only with the read. -/
theorem failsOnly_askCidr (target : String) (query : CidrQuery) :
    FailsOnly allowed (askCidr target query) := by
  intro error reached
  obtain ⟨cause | network, given, ended⟩ := reached
  · cases ended
    exact ⟨target, cause, rfl, .inl ⟨query, given⟩⟩
  · cases ended

/-- Asking for pods fails only with the read. -/
theorem failsOnly_askPods (target : String) (query : PodQuery) :
    FailsOnly allowed (askPods target query) := by
  intro error reached
  obtain ⟨cause | pods, given, ended⟩ := reached
  · cases ended
    exact ⟨target, cause, rfl, .inr ⟨query, given⟩⟩
  · cases ended

end Compilation

namespace Resolvers

open Compilation (FailsOnly failsOnly_pure failsOnly_askCidr failsOnly_askPods)

variable {resolvers : Resolvers} {allowed : Answers} {clusterId : String}

/-- The criterion for a strategy fails only with a read. -/
theorem criterion_failsOnly (strategy : Strategy) (position : MatchPosition) :
    FailsOnly allowed (criterion clusterId strategy position) := by
  cases strategy with
  | set source => exact failsOnly_pure _
  | cidr source => exact (failsOnly_askCidr _ _).bind fun _ _ => failsOnly_pure _

/-- A side of a rule whose party can be matched fails only with a read. -/
theorem compileSide_failsOnly {position : MatchPosition} {party : Option Party}
    (matched : ∀ present ∈ party, ∃ strategy, resolvers.strategy present = .ok strategy) :
    FailsOnly allowed (resolvers.compileSide clusterId position party) := by
  cases party with
  | none => exact failsOnly_pure _
  | some party =>
    obtain ⟨strategy, found⟩ := matched party rfl
    have matching : (ExceptT.mk (.done (resolvers.strategy party)) : Compilation Strategy) =
        pure strategy := by
      rw [found]
      rfl
    simp only [compileSide]
    rw [matching, pure_bind]
    exact (criterion_failsOnly strategy position).bind fun _ _ => failsOnly_pure _

/-- A rule whose parties can be matched fails only with a read. -/
theorem compileRule_failsOnly {place : Nat} {rule : Rule}
    (matched : ∀ party ∈ rule.parties, ∃ strategy, resolvers.strategy party = .ok strategy) :
    FailsOnly allowed (resolvers.compileRule clusterId place rule) := by
  simp only [Rule.parties, List.mem_append, Option.mem_toList, or_imp, forall_and] at matched
  exact (compileSide_failsOnly matched.1).bind fun _ _ =>
    (compileSide_failsOnly matched.2).bind fun _ _ => failsOnly_pure _

/-- Rules whose parties can be matched fail only with a read. -/
theorem compileRules_failsOnly {place : Nat} {rules : List Rule}
    (matched : ∀ rule ∈ rules, ∀ party ∈ rule.parties,
      ∃ strategy, resolvers.strategy party = .ok strategy) :
    FailsOnly allowed (resolvers.compileRules clusterId place rules) := by
  induction rules generalizing place with
  | nil => exact failsOnly_pure _
  | cons rule rest ih =>
    obtain ⟨first, others⟩ := List.forall_mem_cons.1 matched
    exact (compileRule_failsOnly first).bind fun _ _ =>
      (ih others).bind fun _ _ => failsOnly_pure _

/-- The filling of sets fails only with a read. -/
theorem makeSets_failsOnly (sources : List SetSource) :
    FailsOnly allowed (resolvers.makeSets clusterId sources) := by
  induction sources with
  | nil => exact failsOnly_pure _
  | cons source rest ih =>
    have first : FailsOnly allowed (resolvers.makeSet clusterId source) := by
      unfold makeSet
      cases source.query? clusterId with
      | none => exact failsOnly_pure _
      | some query => exact (failsOnly_askPods _ _).bind fun _ _ => failsOnly_pure _
    exact first.bind fun _ _ => ih.bind fun _ _ => failsOnly_pure _

/-- Rules all of whose parties can be matched are compiled unless a read of the cluster fails. -/
theorem compile_failsOnly {rules : List Rule}
    (matched : ∀ rule ∈ rules, ∀ party ∈ rule.parties,
      ∃ strategy, resolvers.strategy party = .ok strategy) :
    FailsOnly allowed (resolvers.compile clusterId rules) :=
  (compileRules_failsOnly matched).bind fun _ _ =>
    (makeSets_failsOnly _).bind fun _ _ => failsOnly_pure _

end Resolvers

/-! ### Reviews -/

namespace Admission

/-- Whether a request holds an object whose content is that of a policy. -/
def Holds (request : AdmissionRequest) (spec : PolicySpec) : Prop :=
  ∃ object content, request.object = some object ∧ object.get? "spec" = some content ∧
    PolicySpec.decode content = .ok spec

/-- An object holds one content. -/
theorem Holds.unique {request : AdmissionRequest} {spec other : PolicySpec}
    (holds : Holds request spec) (holdsOther : Holds request other) : spec = other := by
  obtain ⟨object, content, isObject, isContent, decoded⟩ := holds
  obtain ⟨_, _, isObjectToo, isContentToo, decodedToo⟩ := holdsOther
  cases isObject.symm.trans isObjectToo
  cases isContent.symm.trans isContentToo
  exact Except.ok.inj (decoded.symm.trans decodedToo)

/-- There is no objection just where the object holds the content of a policy with valid rules. -/
theorem objection?_eq_none_iff {resolvers : Resolvers} {request : AdmissionRequest} :
    objection? resolvers request = none ↔
      ∃ spec, Holds request spec ∧ resolvers.validate spec.rules = .ok () := by
  unfold objection? Holds
  cases request.object with
  | none => simp
  | some object =>
    simp only [Option.some.injEq]
    cases found : object.get? "spec" with
    | none => simp [found]
    | some content =>
      simp only
      cases decoded : PolicySpec.decode content with
      | error error => simp [found, decoded]
      | ok spec =>
        simp only
        cases valid : resolvers.validate spec.rules with
        | error fault => simp [found, decoded, valid]
        | ok => simp [found, decoded, valid]

/-- An object is let through just where it is a policy, whatever the case of the letters of its
kind and the version, and holds the content of a policy with valid rules. -/
theorem isAllowed_judge_iff {resolvers : Resolvers} {review : AdmissionReview}
    {request : AdmissionRequest} :
    (judge resolvers review request).verdict.isAllowed ↔
      isPolicy request.kind ∧ ∃ spec, Holds request spec ∧
        resolvers.validate spec.rules = .ok () := by
  rw [← objection?_eq_none_iff]
  unfold judge
  by_cases kind : isPolicy request.kind
  · simp only [kind, if_true, true_and]
    cases objection? resolvers request <;> simp [Verdict.isAllowed]
  · simp [kind, AdmissionResponse.invalid, Verdict.isAllowed]

/-- The two checks of policies agree. An object is let through just where its group and its kind are
those of policies, whatever the case of the letters, and it holds the content of a policy with valid
rules; rules are valid just where each of their parties can be matched and names a namespace, if it
does, by a label of the DNS; so the rules of an object that is let through are compiled, for every
cluster, unless a read of the state of the cluster fails. -/
theorem judge_agrees (resolvers : Resolvers) :
    (∀ review request, (judge resolvers review request).verdict.isAllowed ↔
      Group.eqIgnoringCase request.kind.group "connectivity.liqo.io" ∧
      Group.eqIgnoringCase request.kind.kind "PeeringConnectivity" ∧
      ∃ spec, Holds request spec ∧ resolvers.validate spec.rules = .ok ()) ∧
    (∀ rules, resolvers.validate rules = .ok () ↔
      ∀ rule ∈ rules, ∀ party ∈ rule.parties,
        (∃ strategy, resolvers.strategy party = .ok strategy) ∧
        ∀ name, party.namespace = some name → DnsLabel name) ∧
    ∀ review request spec, (judge resolvers review request).verdict.isAllowed →
      Holds request spec → ∀ (clusterId : String) (allowed : Answers) (error : CompileError),
        (resolvers.compile clusterId spec.rules).run.Reaches allowed (.error error) →
          ∃ target cause, error = .unresolved target cause ∧ allowed.fails cause := by
  refine ⟨fun review request => ?_, fun rules => ?_, ?_⟩
  · rw [isAllowed_judge_iff, isPolicy, Bool.and_eq_true, and_assoc]
    rfl
  · rw [Resolvers.validate_ok_iff]
    refine forall₄_congr fun rule _ party _ => ?_
    exact ⟨fun resolves => ⟨resolves.matched, resolves.labelled⟩, fun both => ⟨both.1, both.2⟩⟩
  · intro review request spec allows holds clusterId allowed error reached
    obtain ⟨_, other, holdsOther, valid⟩ := isAllowed_judge_iff.1 allows
    obtain rfl := holds.unique holdsOther
    have resolves := Resolvers.validate_ok_iff.1 valid
    exact Resolvers.compile_failsOnly
      (fun rule member party isParty => (resolves rule member party isParty).matched) error reached

/-- A policy whose kind is spelled in other letters is let through, and is compiled to nothing where
the network of its party is not announced. -/
theorem judge_agrees_unannounced :
    let resolvers : Resolvers := ⟨[.localCluster], []⟩
    let spec : PolicySpec := ⟨[⟨.allow, some (.ofGroup .localCluster), none⟩]⟩
    let request : AdmissionRequest :=
      ⟨"1", ⟨"Connectivity.LIQO.io", "v1", "peeringconnectivity"⟩,
        some (.obj [("spec", spec.encode)])⟩
    let unannounced : Answers := fun query given => query = .cidr .localPods ∧
      HEq given (.error ⟨"not announced", []⟩ : Except ReadError Net.Cidr)
    let error : CompileError := .unresolved "local-cluster" ⟨"not announced", []⟩
    (judge resolvers ⟨"v1", "AdmissionReview", some request⟩ request).verdict.isAllowed ∧
      (resolvers.compile "c" spec.rules).run.Reaches unannounced (.error error) ∧
      ∃ target cause, error = .unresolved target cause ∧ unannounced.fails cause := by
  intro resolvers spec request unannounced error
  have allows :
      (judge resolvers ⟨"v1", "AdmissionReview", some request⟩ request).verdict.isAllowed := by
    decide +kernel
  have holds : Holds request spec := ⟨_, spec.encode, rfl, rfl, by decide +kernel⟩
  have reached : (resolvers.compile "c" spec.rules).run.Reaches unannounced (.error error) :=
    ⟨_, ⟨rfl, .rfl⟩, rfl⟩
  exact ⟨allows, reached, (judge_agrees resolvers).2.2 _ request spec allows holds "c" unannounced
    error reached⟩

end Admission

end PeerFirewall
