import Mathlib.Data.List.Forall2
import PeerFirewall.Compile.Compiler
import PeerFirewall.Proofs.Outcome

/-!
# What rules are compiled to

The compiler asks about the cluster as it goes. Here its result is described without the asking:
how the criterion of a party, the filter rule of a rule, the filling of a set and the whole
configuration look for the answers that were given. `compile_reaches_ok` says that the description
is exact: the compiler succeeds with a configuration just where the configuration is described.
-/
namespace PeerFirewall

/-- A cluster whose state reads the same each time it is read. -/
structure SteadyCluster where
  network : CidrQuery → Except ReadError Net.Cidr
  pods : PodQuery → Except ReadError (List Pod)

/-- The answers of a steady cluster. -/
def SteadyCluster.answer (cluster : SteadyCluster) :
    (query : clusterState.Question) → clusterState.Answer query
  | .cidr query => cluster.network query
  | .pods query => cluster.pods query

/-- Which answers about the cluster may be given. -/
abbrev Answers := (query : clusterState.Question) → clusterState.Answer query → Prop

namespace Answers

/-- Whether a network may be the answer to a query. -/
def cidr (allowed : Answers) (query : CidrQuery) (network : Net.Cidr) : Prop :=
  allowed (Query.cidr query) (Except.ok network)

/-- Whether pods may be the answer to a query. -/
def pods (allowed : Answers) (query : PodQuery) (pods : List Pod) : Prop :=
  allowed (Query.pods query) (Except.ok pods)

end Answers

namespace Resolvers

variable (resolvers : Resolvers) (allowed : Answers) (clusterId : String)

/-- The value of the criterion on an address that is matched in a way. -/
inductive CriterionValue : Strategy → String → Prop
  | set (source : SetSource) :
      CriterionValue (.set source) (AddressSet.reference source.setName)
  | cidr (source : CidrSource) (network : Net.Cidr)
      (read : allowed.cidr (source.query clusterId) network) :
      CriterionValue (.cidr source) network.text

/-- The criteria for one side of a rule, and the sets that they mention. -/
inductive CompiledSide (position : MatchPosition) :
    Option Party → List Match → List SetSource → Prop
  | absent : CompiledSide position none [] []
  | present (party : Party) (strategy : Strategy) (value : String)
      (matched : resolvers.strategy party = .ok strategy)
      (stands : CriterionValue allowed clusterId strategy value) :
      CompiledSide position (some party) [.onIp value position] strategy.sets

/-- The filter rule for a rule in a place, and the sets that it mentions. -/
inductive CompiledRule (place : Nat) (rule : Rule) : FilterRule → List SetSource → Prop
  | mk (source destination : List Match) (sourceSets destinationSets : List SetSource)
      (left : CompiledSide resolvers allowed clusterId .src rule.source source sourceSets)
      (right : CompiledSide resolvers allowed clusterId .dst rule.destination destination
        destinationSets) :
      CompiledRule place rule
        ⟨compiledRuleName place, rule.action.compiled, source ++ destination⟩
        (sourceSets ++ destinationSets)

/-- The filter rules for rules from a place on, and the sets that they mention. -/
inductive CompiledRules : Nat → List Rule → List FilterRule → List SetSource → Prop
  | nil (place : Nat) : CompiledRules place [] [] []
  | cons {place : Nat} {rule : Rule} {rules : List Rule} {filter : FilterRule}
      {filters : List FilterRule} {sources others : List SetSource}
      (first : CompiledRule resolvers allowed clusterId place rule filter sources)
      (rest : CompiledRules (place + 1) rules filters others) :
      CompiledRules place (rule :: rules) (filter :: filters) (sources ++ others)

/-- The set that is filled from a source. -/
inductive FilledSet : SetSource → AddressSet → Prop
  | subnets (source : SetSource) (static : source.query? clusterId = none) :
      FilledSet source (subnetSet source.setName resolvers.privateSubnets)
  | pods (source : SetSource) (query : PodQuery) (pods : List Pod)
      (asks : source.query? clusterId = some query) (read : allowed.pods query pods) :
      FilledSet source (podSet source.setName pods)

/-- The configuration for rules: the baseline rule, then one filter rule for each rule, and one set
for each source that they mention. -/
inductive CompiledSpec (rules : List Rule) : FirewallSpec → Prop
  | mk (filters : List FilterRule) (sources : List SetSource) (sets : List AddressSet)
      (compiled : CompiledRules resolvers allowed clusterId 0 rules filters sources)
      (filled : List.Forall₂ (FilledSet resolvers allowed clusterId) (SetSource.arrange sources)
        sets) :
      CompiledSpec rules ⟨compiledTable sets (baselineRule :: filters)⟩

variable {resolvers allowed clusterId}

/-- An answer whose failure is blamed on a target succeeds as the answer does. -/
theorem resolved_eq_ok {α : Type} {target : String} {answer : Except ReadError α} {a : α} :
    Compilation.resolved target answer = .ok a ↔ answer = .ok a := by
  cases answer <;> simp [Compilation.resolved, Except.mapError]

/-- A network that is asked for is the one in the answer. -/
theorem askCidr_reaches_ok {target : String} {query : CidrQuery} {network : Net.Cidr} :
    (Compilation.askCidr target query).run.Reaches allowed (.ok network) ↔
      allowed.cidr query network := by
  change (∃ answer : Except ReadError Net.Cidr, allowed (Query.cidr query) answer ∧
    Compilation.resolved target answer = .ok network) ↔ _
  simp only [resolved_eq_ok]
  exact exists_eq_right

/-- Pods that are asked for are those in the answer. -/
theorem askPods_reaches_ok {target : String} {query : PodQuery} {pods : List Pod} :
    (Compilation.askPods target query).run.Reaches allowed (.ok pods) ↔
      allowed.pods query pods := by
  change (∃ answer : Except ReadError (List Pod), allowed (Query.pods query) answer ∧
    Compilation.resolved target answer = .ok pods) ↔ _
  simp only [resolved_eq_ok]
  exact exists_eq_right

/-- The criterion for a strategy has the value that stands for it. -/
theorem criterion_reaches_ok {strategy : Strategy} {position : MatchPosition}
    {criterion : Match} :
    (Resolvers.criterion clusterId strategy position).run.Reaches allowed (.ok criterion) ↔
      ∃ value, CriterionValue allowed clusterId strategy value ∧
        criterion = .onIp value position := by
  cases strategy with
  | set source =>
    simp only [Resolvers.criterion, Program.reaches_ok_pure]
    constructor
    · intro same
      subst same
      exact ⟨_, .set source, rfl⟩
    · intro stands
      obtain ⟨value, stands, rfl⟩ := stands
      cases stands with
      | set => rfl
  | cidr source =>
    simp only [Resolvers.criterion, Program.reaches_ok_bind, askCidr_reaches_ok,
      Program.reaches_ok_pure]
    constructor
    · intro reached
      obtain ⟨network, read, rfl⟩ := reached
      exact ⟨_, .cidr source network read, rfl⟩
    · intro stands
      obtain ⟨value, stands, rfl⟩ := stands
      cases stands with
      | cidr _ network read => exact ⟨network, read, rfl⟩

/-- A side of a rule is compiled as described. -/
theorem compileSide_reaches_ok {position : MatchPosition} {party : Option Party}
    {criteria : List Match} {sources : List SetSource} :
    (resolvers.compileSide clusterId position party).run.Reaches allowed
        (.ok (criteria, sources)) ↔
      CompiledSide resolvers allowed clusterId position party criteria sources := by
  cases party with
  | none =>
    simp only [compileSide, Program.reaches_ok_pure, Prod.mk.injEq]
    constructor
    · intro same
      obtain ⟨rfl, rfl⟩ := same
      exact .absent
    · intro compiled
      cases compiled
      exact ⟨rfl, rfl⟩
  | some party =>
    simp only [compileSide, Program.reaches_ok_bind, criterion_reaches_ok,
      Program.reaches_ok_pure, ExceptT.run_mk, Program.reaches_done, Prod.mk.injEq]
    constructor
    · intro reached
      obtain ⟨strategy, matched, _, ⟨value, stands, rfl⟩, rfl, rfl⟩ := reached
      exact .present party strategy value matched stands
    · intro compiled
      cases compiled with
      | present _ strategy value matched stands =>
        exact ⟨strategy, matched, _, ⟨value, stands, rfl⟩, rfl, rfl⟩

/-- A rule is compiled as described. -/
theorem compileRule_reaches_ok {place : Nat} {rule : Rule} {filter : FilterRule}
    {sources : List SetSource} :
    (resolvers.compileRule clusterId place rule).run.Reaches allowed (.ok (filter, sources)) ↔
      CompiledRule resolvers allowed clusterId place rule filter sources := by
  simp only [compileRule, Program.reaches_ok_bind, Prod.exists, compileSide_reaches_ok,
    Program.reaches_ok_pure, Prod.mk.injEq]
  constructor
  · intro reached
    obtain ⟨source, sourceSets, left, destination, destinationSets, right, rfl, rfl⟩ := reached
    exact .mk source destination sourceSets destinationSets left right
  · intro compiled
    obtain ⟨source, destination, sourceSets, destinationSets, left, right⟩ := compiled
    exact ⟨source, sourceSets, left, destination, destinationSets, right, rfl, rfl⟩

/-- Rules are compiled as described. -/
theorem compileRules_reaches_ok {place : Nat} {rules : List Rule} {filters : List FilterRule}
    {sources : List SetSource} :
    (resolvers.compileRules clusterId place rules).run.Reaches allowed
        (.ok (filters, sources)) ↔
      CompiledRules resolvers allowed clusterId place rules filters sources := by
  induction rules generalizing place filters sources with
  | nil =>
    simp only [compileRules, Program.reaches_ok_pure, Prod.mk.injEq]
    constructor
    · intro same
      obtain ⟨rfl, rfl⟩ := same
      exact .nil place
    · intro compiled
      cases compiled
      exact ⟨rfl, rfl⟩
  | cons rule rest ih =>
    simp only [compileRules, Program.reaches_ok_bind, Prod.exists, compileRule_reaches_ok, ih,
      Program.reaches_ok_pure, Prod.mk.injEq]
    constructor
    · intro reached
      obtain ⟨filter, sources, first, others, otherSources, later, rfl, rfl⟩ := reached
      exact .cons first later
    · intro compiled
      cases compiled
      exact ⟨_, _, ‹_›, _, _, ‹_›, rfl, rfl⟩

/-- A set is filled as described. -/
theorem makeSet_reaches_ok {source : SetSource} {set : AddressSet} :
    (resolvers.makeSet clusterId source).run.Reaches allowed (.ok set) ↔
      FilledSet resolvers allowed clusterId source set := by
  unfold makeSet
  cases asks : source.query? clusterId with
  | none =>
    simp only [Program.reaches_ok_pure]
    constructor
    · intro same
      subst same
      exact .subnets source asks
    · intro filled
      cases filled with
      | subnets => rfl
      | pods query pods asks' read => simp [asks] at asks'
  | some query =>
    simp only [Program.reaches_ok_bind, askPods_reaches_ok, Program.reaches_ok_pure]
    constructor
    · intro reached
      obtain ⟨pods, read, rfl⟩ := reached
      exact .pods source query pods asks read
    · intro filled
      cases filled with
      | subnets static => simp [asks] at static
      | pods other pods asks' read =>
        obtain rfl := Option.some.inj (asks.symm.trans asks')
        exact ⟨pods, read, rfl⟩

/-- Sets are filled one for each source. -/
theorem makeSets_reaches_ok {sources : List SetSource} {sets : List AddressSet} :
    (resolvers.makeSets clusterId sources).run.Reaches allowed (.ok sets) ↔
      List.Forall₂ (FilledSet resolvers allowed clusterId) sources sets := by
  induction sources generalizing sets with
  | nil =>
    simp only [makeSets, Program.reaches_ok_pure, List.forall₂_nil_left_iff]
    exact eq_comm
  | cons source rest ih =>
    simp only [makeSets, Program.reaches_ok_bind, makeSet_reaches_ok, ih,
      Program.reaches_ok_pure, List.forall₂_cons_left_iff]
    constructor
    · intro reached
      obtain ⟨set, filled, others, later, rfl⟩ := reached
      exact ⟨set, others, filled, later, rfl⟩
    · intro filled
      obtain ⟨set, others, filled, later, rfl⟩ := filled
      exact ⟨set, filled, others, later, rfl⟩

/-- The compiler succeeds with a configuration just where it is described. -/
theorem compile_reaches_ok {rules : List Rule} {spec : FirewallSpec} :
    (resolvers.compile clusterId rules).run.Reaches allowed (.ok spec) ↔
      CompiledSpec resolvers allowed clusterId rules spec := by
  simp only [compile, Program.reaches_ok_bind, Prod.exists, compileRules_reaches_ok,
    makeSets_reaches_ok, Program.reaches_ok_pure]
  constructor
  · intro reached
    obtain ⟨filters, sources, compiled, sets, filled, rfl⟩ := reached
    exact .mk filters sources sets compiled filled
  · intro compiled
    obtain ⟨filters, sources, sets, compiled, filled⟩ := compiled
    exact ⟨filters, sources, compiled, sets, filled, rfl⟩

end Resolvers

end PeerFirewall
