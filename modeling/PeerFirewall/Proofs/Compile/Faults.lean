import Mathlib.Data.List.Nodup
import PeerFirewall.Compile.Compiler
import PeerFirewall.Proofs.Compile.Sources
import PeerFirewall.Proofs.Transcript

/-!
# What compiling blames and what it reads

Compiling has requirements in a fixed order: that each party of each rule is sound and that the
network which stands for it, if one does, can be read; then that the sets which the rules mention
can be filled, each once and in the order of the sets. Apart from what it builds, compiling does
nothing but check these one after the other (`Resolvers.compile_checks`). So it blames the first one
that is not met, and reads up to that one and no further (`Resolvers.compile_blamesFirst`).
-/
namespace PeerFirewall

/-- What compiling requires. -/
inductive Requirement where
  /-- That a party is sound. -/
  | party (party : Party)
  /-- That a network can be read. -/
  | network (source : CidrSource)
  /-- That a set can be filled. -/
  | set (source : SetSource)

/-- What is read to see whether a requirement is met. -/
def Requirement.query? (clusterId : String) : Requirement → Option Query
  | party _ => none
  | network source => some (.cidr (source.query clusterId))
  | set source => (source.query? clusterId).map .pods

/-- Whether a party sets one field only: to an enabled group or to the name of a namespace. -/
inductive Resolvers.IsSound (resolvers : Resolvers) : Party → Prop
  | group {group : Group} (enabled : group ∈ resolvers.enabled) :
      IsSound resolvers ⟨some group, none⟩
  | space {name : String} (named : name ≠ "") : IsSound resolvers ⟨none, some name⟩

namespace Resolvers

variable (resolvers : Resolvers) (clusterId : String)

/-- A party can be matched just where it is sound. -/
theorem strategy_ok_iff (party : Party) :
    (∃ strategy, resolvers.strategy party = .ok strategy) ↔ resolvers.IsSound party := by
  constructor
  · rintro ⟨strategy, matched⟩
    obtain ⟨group, enabled, rfl, -⟩ | ⟨name, named, rfl, -⟩ := strategy_eq_ok_iff.1 matched
    · exact .group enabled
    · exact .space named
  · intro sound
    cases sound with
    | @group group enabled =>
      exact ⟨_, strategy_eq_ok_iff.2 (.inl ⟨group, enabled, rfl, rfl⟩)⟩
    | @space name named =>
      exact ⟨_, strategy_eq_ok_iff.2 (.inr ⟨name, named, rfl, rfl⟩)⟩

/-! ### The requirements of rules -/

/-- The networks that stand for a party: one or none. -/
def networksOf (party : Party) : List CidrSource :=
  match resolvers.strategy party with
  | .ok (.cidr source) => [source]
  | .ok (.set _) | .error _ => []

/-- The sets that stand for a party: one or none. -/
def setsOf (party : Party) : List SetSource :=
  match resolvers.strategy party with
  | .ok strategy => strategy.sets
  | .error _ => []

/-- What a party requires. -/
def partyRequirements (party : Party) : List Requirement :=
  .party party :: (resolvers.networksOf party).map .network

/-- What rules require before any set is filled. -/
def ruleRequirements (rules : List Rule) : List Requirement :=
  (rules.flatMap Rule.parties).flatMap resolvers.partyRequirements

/-- The sets that rules mention, each once and in order. -/
def setsOfRules (rules : List Rule) : List SetSource :=
  SetSource.arrange ((rules.flatMap Rule.parties).flatMap resolvers.setsOf)

/-- What rules require, in order. -/
def requirements (rules : List Rule) : List Requirement :=
  resolvers.ruleRequirements rules ++ (resolvers.setsOfRules rules).map .set

/-- The networks that stand for the parties of rules, once for each party. -/
def networkReads (rules : List Rule) : List Query :=
  ((rules.flatMap Rule.parties).flatMap resolvers.networksOf).map fun source =>
    .cidr (source.query clusterId)

/-- The listings that fill the sets that rules mention. -/
def podListings (rules : List Rule) : List Query :=
  ((resolvers.setsOfRules rules).filterMap (SetSource.query? clusterId)).map .pods

/-- The requirements of a party are met by reading the networks that stand for it. -/
theorem query?_partyRequirements (party : Party) :
    (resolvers.partyRequirements party).filterMap (Requirement.query? clusterId) =
      (resolvers.networksOf party).map fun source => .cidr (source.query clusterId) := by
  unfold partyRequirements networksOf
  split <;> rfl

/-- The requirements of rules are met by reading networks, once for each party, and then pods, once
for each set. -/
theorem query?_ruleRequirements (rules : List Rule) :
    (resolvers.ruleRequirements rules).filterMap (Requirement.query? clusterId) =
      resolvers.networkReads clusterId rules := by
  unfold ruleRequirements networkReads
  induction rules.flatMap Rule.parties with
  | nil => rfl
  | cons party rest ih =>
    rw [List.flatMap_cons, List.filterMap_append, query?_partyRequirements, ih, List.flatMap_cons,
      List.map_append]

/-- The sets that rules mention are filled by listing pods, once for each set that is not fixed. -/
theorem query?_sets (rules : List Rule) :
    ((resolvers.setsOfRules rules).map Requirement.set).filterMap (Requirement.query? clusterId) =
      resolvers.podListings clusterId rules := by
  unfold podListings
  rw [List.filterMap_map, List.map_filterMap]
  rfl

/-! ### Compiling checks them -/

/-- Checks that a requirement is met. -/
def check : Requirement → Compilation Unit
  | .party party => ExceptT.mk (.done ((resolvers.strategy party).map fun _ => ()))
  | .network source => (fun _ => ()) <$> Compilation.askCidr source.text (source.query clusterId)
  | .set source => (fun _ => ()) <$> resolvers.makeSet clusterId source

/-- Checks that requirements are met, one after the other. -/
def checkAll : List Requirement → Compilation Unit
  | [] => pure ()
  | requirement :: rest => do
    resolvers.check clusterId requirement
    checkAll rest

/-- Checking some requirements and then others is checking them all. -/
theorem checkAll_append (first second : List Requirement) :
    resolvers.checkAll clusterId (first ++ second) =
      resolvers.checkAll clusterId first >>= fun _ => resolvers.checkAll clusterId second := by
  induction first with
  | nil => simp [checkAll]
  | cons requirement rest ih => simp only [List.cons_append, checkAll, ih, bind_assoc]

/-- Compiling a side of a rule checks what its party requires, and leaves the set that stands for
it. -/
theorem compileSide_checks (position : MatchPosition) (side : Option Party) :
    Prod.snd <$> resolvers.compileSide clusterId position side =
      (fun _ => side.toList.flatMap resolvers.setsOf) <$>
        resolvers.checkAll clusterId (side.toList.flatMap resolvers.partyRequirements) := by
  cases side with
  | none => rfl
  | some party =>
    simp only [Option.toList_some, List.flatMap_singleton]
    unfold compileSide partyRequirements setsOf networksOf
    cases found : resolvers.strategy party with
    | error error =>
      simp only [checkAll, check, found, List.map_nil]
      rfl
    | ok strategy =>
      cases strategy with
      | set source =>
        simp only [checkAll, check, found, List.map_nil]
        rfl
      | cidr source =>
        simp only [checkAll, check, found, criterion, List.map_cons, List.map_nil]
        exact congrArg (Program.ask (I := clusterState) (Query.cidr (source.query clusterId)))
          (funext fun answer => by cases answer <;> rfl)

/-- Compiling a rule checks what its parties require, the source before the destination. -/
theorem compileRule_checks (place : Nat) (rule : Rule) :
    Prod.snd <$> resolvers.compileRule clusterId place rule =
      (fun _ => rule.parties.flatMap resolvers.setsOf) <$>
        resolvers.checkAll clusterId (rule.parties.flatMap resolvers.partyRequirements) := by
  have left := resolvers.compileSide_checks clusterId .src rule.source
  have right := resolvers.compileSide_checks clusterId .dst rule.destination
  have joins : Prod.snd <$> resolvers.compileRule clusterId place rule = do
      let sets ← Prod.snd <$> resolvers.compileSide clusterId .src rule.source
      let others ← Prod.snd <$> resolvers.compileSide clusterId .dst rule.destination
      return sets ++ others := by
    simp only [compileRule, map_eq_pure_bind, bind_assoc, pure_bind]
  rw [joins, left, right, Rule.parties, List.flatMap_append, List.flatMap_append, checkAll_append]
  simp only [map_eq_pure_bind, bind_assoc, pure_bind]

/-- Compiling rules checks what their parties require, rule by rule. -/
theorem compileRules_checks (place : Nat) (rules : List Rule) :
    Prod.snd <$> resolvers.compileRules clusterId place rules =
      (fun _ => (rules.flatMap Rule.parties).flatMap resolvers.setsOf) <$>
        resolvers.checkAll clusterId (resolvers.ruleRequirements rules) := by
  induction rules generalizing place with
  | nil => rfl
  | cons rule rest ih =>
    have joins : Prod.snd <$> resolvers.compileRules clusterId place (rule :: rest) = do
        let sets ← Prod.snd <$> resolvers.compileRule clusterId place rule
        let others ← Prod.snd <$> resolvers.compileRules clusterId (place + 1) rest
        return sets ++ others := by
      simp only [compileRules, map_eq_pure_bind, bind_assoc, pure_bind]
    have requires : resolvers.ruleRequirements (rule :: rest) =
        rule.parties.flatMap resolvers.partyRequirements ++ resolvers.ruleRequirements rest := by
      simp only [ruleRequirements, List.flatMap_cons, List.flatMap_append]
    rw [joins, compileRule_checks, ih, requires, checkAll_append, List.flatMap_cons,
      List.flatMap_append]
    simp only [map_eq_pure_bind, bind_assoc, pure_bind]

/-- Filling sets checks that each can be filled. -/
theorem makeSets_checks (sources : List SetSource) :
    (fun _ => ()) <$> resolvers.makeSets clusterId sources =
      resolvers.checkAll clusterId (sources.map .set) := by
  induction sources with
  | nil => rfl
  | cons source rest ih =>
    rw [List.map_cons, checkAll, ← ih]
    simp only [makeSets, check, map_eq_pure_bind, bind_assoc, pure_bind]

/-- Apart from what it builds, compiling checks what the rules require. -/
theorem compile_checks (rules : List Rule) :
    (fun _ => ()) <$> resolvers.compile clusterId rules =
      resolvers.checkAll clusterId (resolvers.requirements rules) := by
  have joins : (fun _ => ()) <$> resolvers.compile clusterId rules =
      (Prod.snd <$> resolvers.compileRules clusterId 0 rules) >>= fun sources =>
        (fun _ => ()) <$> resolvers.makeSets clusterId (SetSource.arrange sources) := by
    simp only [compile, map_eq_pure_bind, bind_assoc, pure_bind]
  rw [joins, compileRules_checks, requirements, checkAll_append, ← makeSets_checks]
  simp only [map_eq_pure_bind, bind_assoc, pure_bind, setsOfRules]

end Resolvers

/-! ### Reading from a cluster -/

/-- Whether an answer about the cluster tells what was asked for. -/
def Query.isAnswered : (query : Query) → query.Answer → Bool
  | .cidr _, answer => answer.toBool
  | .pods _, answer => answer.toBool

variable {σ : Type}

/-- The answers of a cluster to queries, one after the other. -/
def readings (respond : (query : clusterState.Question) → σ → clusterState.Answer query × σ) :
    List Query → σ → Transcript clusterState
  | [], _ => []
  | query :: rest, s =>
    let answered := respond query s
    ⟨query, answered.1⟩ :: readings respond rest answered.2

/-- Whether everything was answered. -/
def Transcript.AllAnswered (t : Transcript clusterState) : Prop :=
  ∀ step ∈ t, Query.isAnswered step.1 step.2

/-- The cluster after a requirement is checked. -/
def Requirement.after (clusterId : String)
    (respond : (query : clusterState.Question) → σ → clusterState.Answer query × σ)
    (requirement : Requirement) (s : σ) : σ :=
  match requirement.query? clusterId with
  | none => s
  | some query => (respond query s).2

namespace Resolvers

variable (resolvers : Resolvers) (clusterId : String)
  (respond : (query : clusterState.Question) → σ → clusterState.Answer query × σ)

/-- What there is to blame if a requirement is not met. -/
def fault? (s : σ) : Requirement → Option CompileError
  | .party party =>
    match resolvers.strategy party with
    | .error error => some error
    | .ok _ => none
  | .network source =>
    match (respond (Query.cidr (source.query clusterId)) s).1 with
    | .error cause => some (.unresolved source.text cause)
    | .ok _ => none
  | .set source =>
    match source.query? clusterId with
    | none => none
    | some query =>
      match (respond (Query.pods query) s).1 with
      | .error cause => some (.unresolved source.text cause)
      | .ok _ => none

/-- What there is to blame on each requirement, were they all checked one after the other. -/
def faults : List Requirement → σ → List (Option CompileError)
  | [], _ => []
  | requirement :: rest, s =>
    resolvers.fault? clusterId respond s requirement ::
      faults rest (requirement.after clusterId respond s)

/-- How many requirements are met before the first that is not. -/
def countMet (requirements : List Requirement) (s : σ) : Nat :=
  ((resolvers.faults clusterId respond requirements s).takeWhile (·.isNone)).length

/-- A step whose end is forgotten goes as the step does. -/
theorem run_forget {α : Type} (step : Compilation α) (s : σ) :
    ((fun _ => ()) <$> step : Compilation Unit).run.run respond s =
      ((step.run.run respond s).1.map fun _ => (), (step.run.run respond s).2) := by
  rw [ExceptT.run_map, Program.run_map]

/-- A step whose end is forgotten asks what the step asks. -/
theorem transcript_forget {α : Type} (step : Compilation α) (s : σ) :
    ((fun _ => ()) <$> step : Compilation Unit).run.transcript respond s =
      step.run.transcript respond s := by
  rw [ExceptT.run_map, Program.transcript_map]

/-- Checking a requirement fails with what there is to blame, if there is something. -/
theorem check_run (requirement : Requirement) (s : σ) :
    (resolvers.check clusterId requirement).run.run respond s =
      ((match resolvers.fault? clusterId respond s requirement with
        | none => .ok ()
        | some error => .error error), requirement.after clusterId respond s) := by
  cases requirement with
  | party party =>
    simp only [check, fault?]
    cases resolvers.strategy party <;> rfl
  | network source =>
    have asks : (Compilation.askCidr source.text (source.query clusterId)).run.run respond s =
        (Compilation.resolved source.text (respond (Query.cidr (source.query clusterId)) s).1,
          (respond (Query.cidr (source.query clusterId)) s).2) := rfl
    simp only [check, fault?, run_forget, asks]
    cases (respond (Query.cidr (source.query clusterId)) s).1 <;> rfl
  | set source =>
    simp only [check, fault?, makeSet]
    cases found : source.query? clusterId with
    | none =>
      simp only [Requirement.after, Requirement.query?, found]
      rfl
    | some query =>
      have asks : (Compilation.askPods source.text query).run.run respond s =
          (Compilation.resolved source.text (respond (Query.pods query) s).1,
            (respond (Query.pods query) s).2) := rfl
      simp only [Requirement.after, Requirement.query?, found, bind_pure_comp, Functor.map_map,
        run_forget, asks, Option.map_some]
      cases (respond (Query.pods query) s).1 <;> rfl

/-- Checking a requirement reads what there is to read. -/
theorem check_asks (requirement : Requirement) (s : σ) :
    ((resolvers.check clusterId requirement).run.transcript respond s).map Sigma.fst =
      (requirement.query? clusterId).toList := by
  cases requirement with
  | party party => rfl
  | network source =>
    rw [check, transcript_forget]
    rfl
  | set source =>
    simp only [check, makeSet]
    cases found : source.query? clusterId with
    | none =>
      simp only [Requirement.query?, found]
      rfl
    | some query =>
      simp only [Requirement.query?, found, bind_pure_comp, Functor.map_map, transcript_forget]
      rfl

/-- Checking requirements fails with the first thing there is to blame. -/
theorem checkAll_run (requirements : List Requirement) (s : σ) :
    ((resolvers.checkAll clusterId requirements).run.run respond s).1 =
      match (resolvers.faults clusterId respond requirements s).findSome? id with
      | none => .ok ()
      | some error => .error error := by
  induction requirements generalizing s with
  | nil => rfl
  | cons requirement rest ih =>
    rw [checkAll, ExceptT.run_bind, Program.bind_eq_bind, Program.run_bind, check_run]
    unfold faults
    cases found : resolvers.fault? clusterId respond s requirement with
    | some error => rfl
    | none =>
      simp only [List.findSome?_cons, id_eq]
      exact ih _

/-- A requirement that is not met is the last one that is checked. -/
theorem countMet_of_fault {requirement : Requirement} {s : σ} {error : CompileError}
    (found : resolvers.fault? clusterId respond s requirement = some error)
    (rest : List Requirement) :
    resolvers.countMet clusterId respond (requirement :: rest) s = 0 := by
  simp [countMet, faults, found]

/-- A requirement that is met counts. -/
theorem countMet_of_met {requirement : Requirement} {s : σ}
    (found : resolvers.fault? clusterId respond s requirement = none) (rest : List Requirement) :
    resolvers.countMet clusterId respond (requirement :: rest) s =
      resolvers.countMet clusterId respond rest (requirement.after clusterId respond s) + 1 := by
  simp [countMet, faults, found]

/-- Checking requirements reads up to the first one that is not met. -/
theorem checkAll_asks (requirements : List Requirement) (s : σ) :
    ((resolvers.checkAll clusterId requirements).run.transcript respond s).map Sigma.fst =
      (requirements.take (resolvers.countMet clusterId respond requirements s + 1)).filterMap
        (Requirement.query? clusterId) := by
  induction requirements generalizing s with
  | nil => rfl
  | cons requirement rest ih =>
    rw [checkAll, ExceptT.run_bind, Program.bind_eq_bind, Program.transcript_bind,
      List.map_append, check_asks, check_run, List.take_succ_cons,
      List.filterMap_eq_flatMap_toList, List.flatMap_cons, ← List.filterMap_eq_flatMap_toList]
    cases found : resolvers.fault? clusterId respond s requirement with
    | some error =>
      rw [countMet_of_fault _ _ _ found]
      rfl
    | none =>
      rw [countMet_of_met _ _ _ found]
      exact congrArg ((requirement.query? clusterId).toList ++ ·) (ih _)

/-! ### What is met -/

/-- Some requirements and then others are met if all the first ones are met, and then the others. -/
theorem faults_append (first second : List Requirement) (s : σ) :
    ∃ later, resolvers.faults clusterId respond (first ++ second) s =
      resolvers.faults clusterId respond first s ++
        resolvers.faults clusterId respond second later := by
  induction first generalizing s with
  | nil => exact ⟨s, rfl⟩
  | cons requirement rest ih =>
    obtain ⟨later, same⟩ := ih (requirement.after clusterId respond s)
    exact ⟨later, by rw [List.cons_append, faults, same]; rfl⟩

/-- A requirement is met just where the party that it names is sound and the query that it makes is
answered. -/
theorem fault?_eq_none_iff (requirement : Requirement) (s : σ) :
    resolvers.fault? clusterId respond s requirement = none ↔
      (∀ party, requirement = .party party → resolvers.IsSound party) ∧
        ∀ query, requirement.query? clusterId = some query →
          query.isAnswered (respond query s).1 := by
  cases requirement with
  | party party =>
    have sound := resolvers.strategy_ok_iff party
    simp only [fault?, Requirement.party.injEq, forall_eq', Requirement.query?, reduceCtorEq,
      false_imp_iff, implies_true, and_true, ← sound]
    cases resolvers.strategy party <;> simp
  | network source =>
    simp only [fault?, Requirement.query?, reduceCtorEq, false_imp_iff, implies_true, true_and,
      Option.some.injEq, forall_eq', Query.isAnswered]
    cases (respond (Query.cidr (source.query clusterId)) s).1 <;> simp [Except.toBool]
  | set source =>
    simp only [fault?, Requirement.query?, reduceCtorEq, false_imp_iff, implies_true, true_and]
    cases source.query? clusterId with
    | none => simp
    | some query =>
      simp only [Option.map_some, Option.some.injEq, forall_eq', Query.isAnswered]
      cases (respond (Query.pods query) s).1 <;> simp [Except.toBool]

/-- What the first requirement reads is read before what the others read. -/
theorem readings_cons (requirement : Requirement) (rest : List Requirement) (s : σ) :
    readings respond ((requirement :: rest).filterMap (Requirement.query? clusterId)) s =
      ((requirement.query? clusterId).toList.map fun query => ⟨query, (respond query s).1⟩) ++
        readings respond (rest.filterMap (Requirement.query? clusterId))
          (requirement.after clusterId respond s) := by
  unfold Requirement.after
  cases found : requirement.query? clusterId with
  | none => simp [found]
  | some query => simp [found, readings]

/-- There is nothing to blame just where every party is sound and everything that has to be read is
answered. -/
theorem faults_eq_none_iff (requirements : List Requirement) (s : σ) :
    (∀ fault ∈ resolvers.faults clusterId respond requirements s, fault = none) ↔
      (∀ party, .party party ∈ requirements → resolvers.IsSound party) ∧
        (readings respond (requirements.filterMap (Requirement.query? clusterId))
          s).AllAnswered := by
  induction requirements generalizing s with
  | nil => simp [faults, readings, Transcript.AllAnswered]
  | cons requirement rest ih =>
    have parties : (∀ party, Requirement.party party ∈ requirement :: rest →
          resolvers.IsSound party) ↔
        (∀ party, requirement = .party party → resolvers.IsSound party) ∧
          ∀ party, Requirement.party party ∈ rest → resolvers.IsSound party := by
      simp only [List.mem_cons, or_imp, forall_and, eq_comm]
    have reads : (readings respond ((requirement :: rest).filterMap
          (Requirement.query? clusterId)) s).AllAnswered ↔
        (∀ query, requirement.query? clusterId = some query →
            query.isAnswered (respond query s).1) ∧
          (readings respond (rest.filterMap (Requirement.query? clusterId))
            (requirement.after clusterId respond s)).AllAnswered := by
      rw [readings_cons, Transcript.AllAnswered, List.forall_mem_append, List.forall_mem_map]
      simp only [Option.mem_toList]
      rfl
    rw [faults, List.forall_mem_cons, ih, fault?_eq_none_iff, parties, reads, and_and_and_comm]

/-! ### Compiling -/

/-- Before any set is filled, the soundness of every party of every rule is required. -/
theorem forall_party_ruleRequirements {rules : List Rule} {holds : Party → Prop} :
    (∀ party, .party party ∈ resolvers.ruleRequirements rules → holds party) ↔
      ∀ rule ∈ rules, ∀ party ∈ rule.parties, holds party := by
  have isParty (party : Party) : .party party ∈ resolvers.ruleRequirements rules ↔
      ∃ rule ∈ rules, party ∈ rule.parties := by
    simp [ruleRequirements, partyRequirements]
  simp only [isParty, forall_exists_index, and_imp]
  exact ⟨fun all rule isIn party ofRule => all party rule isIn ofRule,
    fun all party rule isIn ofRule => all rule isIn party ofRule⟩

/-- The soundness of every party of every rule is required, and of no other party. -/
theorem forall_party_requirements {rules : List Rule} {holds : Party → Prop} :
    (∀ party, .party party ∈ resolvers.requirements rules → holds party) ↔
      ∀ rule ∈ rules, ∀ party ∈ rule.parties, holds party := by
  rw [← resolvers.forall_party_ruleRequirements]
  simp [requirements]

/-- The requirements of rules are met by reading networks, once for each party, and then pods, once
for each set. -/
theorem query?_requirements (rules : List Rule) :
    (resolvers.requirements rules).filterMap (Requirement.query? clusterId) =
      resolvers.networkReads clusterId rules ++ resolvers.podListings clusterId rules := by
  rw [requirements, List.filterMap_append, query?_ruleRequirements, query?_sets]

/-- The sets that rules mention are those that stand for their parties. -/
theorem mem_setsOfRules {rules : List Rule} {source : SetSource} :
    source ∈ resolvers.setsOfRules rules ↔
      ∃ rule ∈ rules, ∃ party ∈ rule.parties, resolvers.strategy party = .ok (.set source) := by
  have stands (party : Party) :
      source ∈ resolvers.setsOf party ↔ resolvers.strategy party = .ok (.set source) := by
    unfold setsOf
    cases resolvers.strategy party with
    | error error => simp
    | ok strategy => cases strategy <;> simp [Strategy.sets, eq_comm]
  simp only [setsOfRules, SetSource.mem_arrange, List.mem_flatMap, stands]
  constructor
  · rintro ⟨party, ⟨rule, isIn, ofRule⟩, matched⟩
    exact ⟨rule, isIn, party, ofRule, matched⟩
  · rintro ⟨rule, isIn, party, ofRule, matched⟩
    exact ⟨party, ⟨rule, isIn, ofRule⟩, matched⟩

/-- Different sets are filled by different listings. -/
theorem podListings_nodup (rules : List Rule) : (resolvers.podListings clusterId rules).Nodup := by
  have once : (resolvers.setsOfRules rules).Nodup := SetSource.arrange_nodup _
  have different : ∀ (source other : SetSource) (query : PodQuery),
      query ∈ source.query? clusterId → query ∈ other.query? clusterId → source = other := by
    intro source other query asks asksToo
    cases source <;> cases asks <;> cases other <;> cases asksToo <;> rfl
  refine List.Nodup.map (fun _ _ same => ?_) (once.filterMap different)
  cases same
  rfl

/-- One thing is to be blamed, if at all, on each requirement. -/
theorem length_faults (requirements : List Requirement) (s : σ) :
    (resolvers.faults clusterId respond requirements s).length = requirements.length := by
  induction requirements generalizing s with
  | nil => rfl
  | cons requirement rest ih => rw [faults, List.length_cons, List.length_cons, ih]

/-- Compiling comes to the first thing there is to blame, or to something. -/
theorem compile_run (rules : List Rule) (s : σ) :
    ((resolvers.compile clusterId rules).run.run respond s).1.map (fun _ => ()) =
      match (resolvers.faults clusterId respond (resolvers.requirements rules) s).findSome? id with
      | none => .ok ()
      | some error => .error error := by
  have checks := resolvers.compile_checks clusterId rules
  have runs := run_forget respond (resolvers.compile clusterId rules) s
  rw [checks] at runs
  rw [← checkAll_run, runs]

/-- Compiling fails with the first thing there is to blame. -/
theorem compile_error_iff {rules : List Rule} {s : σ} {error : CompileError} :
    ((resolvers.compile clusterId rules).run.run respond s).1 = .error error ↔
      (resolvers.faults clusterId respond (resolvers.requirements rules) s).findSome? id =
        some error := by
  have ends := resolvers.compile_run clusterId respond rules s
  cases found : (resolvers.faults clusterId respond (resolvers.requirements rules) s).findSome? id
    <;> rw [found] at ends
    <;> cases came : ((resolvers.compile clusterId rules).run.run respond s).1
    <;> rw [came] at ends
    <;> cases ends
    <;> simp

/-- Compiling succeeds just where there is nothing to blame. -/
theorem compile_ok_iff {rules : List Rule} {s : σ} :
    (∃ spec, ((resolvers.compile clusterId rules).run.run respond s).1 = .ok spec) ↔
      ∀ fault ∈ resolvers.faults clusterId respond (resolvers.requirements rules) s,
        fault = none := by
  have nothing : (resolvers.faults clusterId respond (resolvers.requirements rules) s).findSome? id
      = none ↔ ∀ fault ∈ resolvers.faults clusterId respond (resolvers.requirements rules) s,
        fault = none := List.findSome?_eq_none_iff
  rw [← nothing]
  constructor
  · rintro ⟨spec, came⟩
    by_contra blamed
    obtain ⟨error, found⟩ := Option.ne_none_iff_exists'.1 blamed
    cases came.symm.trans ((resolvers.compile_error_iff clusterId respond).2 found)
  · intro nothing
    cases came : ((resolvers.compile clusterId rules).run.run respond s).1 with
    | ok spec => exact ⟨spec, rfl⟩
    | error error =>
      cases nothing.symm.trans ((resolvers.compile_error_iff clusterId respond).1 came)

/-- Compiling reads up to the first requirement that is not met. -/
theorem compile_asks (rules : List Rule) (s : σ) :
    ((resolvers.compile clusterId rules).run.transcript respond s).map Sigma.fst =
      ((resolvers.requirements rules).take (resolvers.countMet clusterId respond
        (resolvers.requirements rules) s + 1)).filterMap (Requirement.query? clusterId) := by
  have checks := resolvers.compile_checks clusterId rules
  rw [← checkAll_asks, ← checks, transcript_forget]

/-- Where pods are listed, every party is sound and every network has been read. -/
theorem faultless_of_listing {rules : List Rule} {s : σ} {query : PodQuery}
    (lists : Query.pods query ∈
      ((resolvers.compile clusterId rules).run.transcript respond s).map Sigma.fst) :
    ∀ fault ∈ resolvers.faults clusterId respond (resolvers.ruleRequirements rules) s,
      fault = none := by
  rw [compile_asks, requirements] at lists
  have reaches : (resolvers.ruleRequirements rules).length ≤
      resolvers.countMet clusterId respond (resolvers.ruleRequirements rules ++
        (resolvers.setsOfRules rules).map .set) s := by
    by_contra stops
    have early : ∀ query ∈ (resolvers.ruleRequirements rules).filterMap
        (Requirement.query? clusterId), ∃ network, query = Query.cidr network := by
      rw [query?_ruleRequirements]
      exact List.forall_mem_map.2 fun _ _ => ⟨_, rfl⟩
    rw [List.take_append_of_le_length (by omega)] at lists
    have isIn := ((List.take_sublist _ _).filterMap _).subset lists
    obtain ⟨network, same⟩ := early _ isIn
    cases same
  obtain ⟨later, split⟩ := resolvers.faults_append clusterId respond
    (resolvers.ruleRequirements rules) ((resolvers.setsOfRules rules).map .set) s
  -- The faults of the rules stand before the first requirement that is not met.
  unfold countMet at reaches
  rw [split, ← resolvers.length_faults clusterId respond _ s] at reaches
  have before := List.prefix_of_prefix_length_le (List.prefix_append _ _)
    (List.takeWhile_prefix _) reaches
  intro fault member
  exact Option.isNone_iff_eq_none.1 (List.all_eq_true.1 List.all_takeWhile _ (before.subset member))

/-- How compiling rules against a cluster ends, and what it reads of the cluster. -/
structure BlamesFirst (rules : List Rule) (s : σ) : Prop where
  /-- Compiling succeeds just where every party is sound, every network that stands for a party can
  be read, and the pods of every set that is mentioned can be listed. -/
  succeeds : (∃ spec, ((resolvers.compile clusterId rules).run.run respond s).1 = .ok spec) ↔
    (∀ rule ∈ rules, ∀ party ∈ rule.parties, resolvers.IsSound party) ∧
      (readings respond (resolvers.networkReads clusterId rules ++
        resolvers.podListings clusterId rules) s).AllAnswered
  /-- Otherwise the first requirement that is not met is blamed. -/
  blames : ∀ error, ((resolvers.compile clusterId rules).run.run respond s).1 = .error error ↔
    (resolvers.faults clusterId respond (resolvers.requirements rules) s).findSome? id = some error
  /-- What is read is what the requirements up to that one need. -/
  asks : ((resolvers.compile clusterId rules).run.transcript respond s).map Sigma.fst =
    ((resolvers.requirements rules).take (resolvers.countMet clusterId respond
      (resolvers.requirements rules) s + 1)).filterMap (Requirement.query? clusterId)
  /-- All the requirements need the networks, once for each party, and then the listings. -/
  needs : (resolvers.requirements rules).filterMap (Requirement.query? clusterId) =
    resolvers.networkReads clusterId rules ++ resolvers.podListings clusterId rules
  /-- The sets are those that stand for a party, in their order. -/
  mentions : ∀ source, source ∈ resolvers.setsOfRules rules ↔
    ∃ rule ∈ rules, ∃ party ∈ rule.parties, resolvers.strategy party = .ok (.set source)
  ordered : (resolvers.setsOfRules rules).Pairwise fun source other => source.before other
  /-- No listing is made twice. -/
  once : (resolvers.podListings clusterId rules).Nodup
  /-- Pods are listed only once every party is sound and every network has been read. -/
  listsLast : ∀ query, Query.pods query ∈
      ((resolvers.compile clusterId rules).run.transcript respond s).map Sigma.fst →
    (∀ rule ∈ rules, ∀ party ∈ rule.parties, resolvers.IsSound party) ∧
      (readings respond (resolvers.networkReads clusterId rules) s).AllAnswered

/-- Whatever the cluster answers, compiling blames the first requirement that is not met, and reads
what is needed up to that one. -/
theorem compile_blamesFirst (rules : List Rule) (s : σ) :
    resolvers.BlamesFirst clusterId respond rules s where
  succeeds := by
    have met := resolvers.faults_eq_none_iff clusterId respond (resolvers.requirements rules) s
    rw [query?_requirements, forall_party_requirements] at met
    rw [← met, ← compile_ok_iff]
  blames error := resolvers.compile_error_iff clusterId respond
  asks := resolvers.compile_asks clusterId respond rules s
  needs := resolvers.query?_requirements clusterId rules
  mentions _ := resolvers.mem_setsOfRules
  ordered := SetSource.arrange_sorted _
  once := resolvers.podListings_nodup clusterId rules
  listsLast query lists := by
    have faultless := resolvers.faultless_of_listing clusterId respond lists
    rwa [faults_eq_none_iff, query?_ruleRequirements, forall_party_ruleRequirements] at faultless

/-- Where the network of the peer is not announced, no pods are listed. -/
example :
    let rules : List Rule := [
      ⟨.allow, some ⟨some .offloaded, none⟩, some ⟨some .localCluster, none⟩⟩,
      ⟨.deny, some ⟨some .remoteCluster, none⟩, some ⟨some .offloaded, none⟩⟩]
    let answer : (query : clusterState.Question) → clusterState.Answer query
      | .cidr .localPods => .ok (.v4 ⟨10, 0, 0, 0⟩ 16)
      | .cidr _ => .error ⟨"not announced", []⟩
      | .pods _ => .ok []
    let compiling := (Resolvers.compile ⟨Group.all, []⟩ "c" rules).run
    compiling.questions answer = [Query.cidr .localPods, Query.cidr (.remotePods "c")] ∧
      compiling.eval answer = .error (.unresolved "remote-cluster" ⟨"not announced", []⟩) :=
  ⟨rfl, rfl⟩

end Resolvers

end PeerFirewall
