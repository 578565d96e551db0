import Mathlib.Data.List.FinRange
import PeerFirewall.Proofs.Compile.Faults
import PeerFirewall.Proofs.Compile.Meaning

/-!
# Rules in another order

A rule compiles to the same criteria wherever it stands (`CompiledRule.unique`), and the sets do not
depend on the order of the rules that mention them (`Resolvers.setsOfRules_perm`). So rules in
another order compile just where they do in the one (`Resolvers.compiledSpec_perm`), and to the same
configuration but that the compiled rules stand in the other order: `FirewallSpec.Rearranges` says
what that means, and `Resolvers.compile_rearranged` that it is so.
-/
namespace PeerFirewall

/-! ### Sets -/

/-- Sources are arranged alike in whatever order they are mentioned. -/
theorem SetSource.arrange_perm {sources others : List SetSource} (reordered : sources.Perm others) :
    arrange sources = arrange others := by
  have mentioned (source : SetSource) : source ∈ arrange sources ↔ source ∈ arrange others := by
    rw [mem_arrange, mem_arrange, reordered.mem_iff]
  have same : (arrange sources).Perm (arrange others) :=
    (List.perm_ext_iff_of_nodup (arrange_nodup sources) (arrange_nodup others)).2 mentioned
  refine same.eq_of_pairwise (fun source other _ _ first second => ?_) (arrange_sorted sources)
    (arrange_sorted others)
  have before := before_trans first second
  rw [before_irrefl] at before
  contradiction

/-- Whether there is one answer to each question. -/
def Answers.Steady (allowed : Answers) : Prop :=
  ∀ query given other, allowed query given → allowed query other → given = other

namespace Resolvers

variable {resolvers : Resolvers} {allowed : Answers} {clusterId : String}

/-- A steady cluster has one answer to each question. -/
theorem onlyAnswers_steady (cluster : SteadyCluster) : (onlyAnswers cluster).Steady :=
  fun _ _ _ given givenToo => given.trans givenToo.symm

/-- The same sets are mentioned by the same rules, in whatever order. -/
theorem setsOfRules_perm {rules others : List Rule} (reordered : rules.Perm others) :
    resolvers.setsOfRules rules = resolvers.setsOfRules others :=
  SetSource.arrange_perm ((reordered.flatMap_right _).flatMap_right _)

/-! ### What a rule compiles to -/

/-- The value of a criterion is settled by the answers. -/
theorem CriterionValue.unique (steady : allowed.Steady) {strategy : Strategy}
    {value other : String} (stands : CriterionValue allowed clusterId strategy value)
    (standsToo : CriterionValue allowed clusterId strategy other) : value = other := by
  cases stands with
  | set source =>
    cases standsToo
    rfl
  | cidr source network read =>
    cases standsToo with
    | cidr _ otherNetwork readToo =>
      cases steady _ _ _ read readToo
      rfl

/-- What a side of a rule compiles to is settled by the answers. -/
theorem CompiledSide.unique (steady : allowed.Steady) {position : MatchPosition}
    {side : Option Party} {criteria others : List Match} {sources otherSources : List SetSource}
    (compiled : CompiledSide resolvers allowed clusterId position side criteria sources)
    (compiledToo : CompiledSide resolvers allowed clusterId position side others otherSources) :
    criteria = others := by
  cases compiled with
  | absent =>
    cases compiledToo
    rfl
  | present party strategy value matched stands =>
    cases compiledToo with
    | present _ otherStrategy other matchedToo standsToo =>
      cases matched.symm.trans matchedToo
      rw [stands.unique steady standsToo]

/-- What a rule compiles to, its name apart, is settled by the answers and not by its place. -/
theorem CompiledRule.unique (steady : allowed.Steady) {place otherPlace : Nat} {rule : Rule}
    {filter other : FilterRule} {sources otherSources : List SetSource}
    (compiled : CompiledRule resolvers allowed clusterId place rule filter sources)
    (compiledToo : CompiledRule resolvers allowed clusterId otherPlace rule other otherSources) :
    filter.action = other.action ∧ filter.criteria = other.criteria := by
  obtain ⟨source, destination, _, _, left, right⟩ := compiled
  obtain ⟨_, _, _, _, leftToo, rightToo⟩ := compiledToo
  obtain rfl := left.unique steady leftToo
  obtain rfl := right.unique steady rightToo
  exact ⟨rfl, rfl⟩

/-- A rule that compiles in one place compiles in every other one. -/
theorem CompiledRule.move {place : Nat} {rule : Rule} {filter : FilterRule}
    {sources : List SetSource}
    (compiled : CompiledRule resolvers allowed clusterId place rule filter sources)
    (other : Nat) : ∃ moved, CompiledRule resolvers allowed clusterId other rule moved sources := by
  obtain ⟨source, destination, sourceSets, destinationSets, left, right⟩ := compiled
  exact ⟨_, .mk source destination sourceSets destinationSets left right⟩

/-! ### What rules compile to -/

/-- A side of a rule mentions the sets that stand for its party. -/
theorem CompiledSide.sources_eq {position : MatchPosition} {side : Option Party}
    {criteria : List Match} {sources : List SetSource}
    (compiled : CompiledSide resolvers allowed clusterId position side criteria sources) :
    sources = side.toList.flatMap resolvers.setsOf := by
  cases compiled with
  | absent => rfl
  | present party strategy value matched stands => simp [setsOf, matched]

/-- Rules mention the sets that stand for their parties. -/
theorem CompiledRules.sources_eq {place : Nat} {rules : List Rule} {filters : List FilterRule}
    {sources : List SetSource}
    (compiled : CompiledRules resolvers allowed clusterId place rules filters sources) :
    sources = (rules.flatMap Rule.parties).flatMap resolvers.setsOf := by
  induction compiled with
  | nil place => rfl
  | cons first rest ih =>
    obtain ⟨_, _, _, _, left, right⟩ := first
    rw [List.flatMap_cons, List.flatMap_append, ← ih, Rule.parties, List.flatMap_append,
      ← left.sources_eq, ← right.sources_eq]

/-- Each rule stands compiled in its place. -/
theorem CompiledRules.compiled_at {place : Nat} {rules : List Rule} {filters : List FilterRule}
    {sources : List SetSource}
    (compiled : CompiledRules resolvers allowed clusterId place rules filters sources) {i : Nat}
    {rule : Rule} (isAt : rules[i]? = some rule) :
    ∃ filter mentioned, filters[i]? = some filter ∧
      CompiledRule resolvers allowed clusterId (place + i) rule filter mentioned := by
  induction compiled generalizing i with
  | nil place => cases isAt
  | cons first rest ih =>
    cases i with
    | zero =>
      cases isAt
      exact ⟨_, _, rfl, first⟩
    | succ i =>
      obtain ⟨filter, mentioned, isFilter, compiled⟩ := ih isAt
      exact ⟨filter, mentioned, isFilter, by rwa [Nat.add_right_comm, Nat.add_assoc] at compiled⟩

/-- Rules compile just where each of them does. -/
theorem compiledRules_iff (place : Nat) {rules : List Rule} :
    (∃ filters sources, CompiledRules resolvers allowed clusterId place rules filters sources) ↔
      ∀ rule ∈ rules, ∃ filter sources,
        CompiledRule resolvers allowed clusterId 0 rule filter sources := by
  induction rules generalizing place with
  | nil => exact ⟨fun _ => List.forall_mem_nil _, fun _ => ⟨[], [], .nil place⟩⟩
  | cons rule rest ih =>
    rw [List.forall_mem_cons, ← ih (place + 1)]
    constructor
    · rintro ⟨_, _, compiled⟩
      cases compiled with
      | cons first later =>
        obtain ⟨moved, compiled⟩ := first.move 0
        exact ⟨⟨moved, _, compiled⟩, _, _, later⟩
    · rintro ⟨⟨_, _, first⟩, _, _, later⟩
      obtain ⟨_, compiled⟩ := first.move place
      exact ⟨_, _, .cons compiled later⟩

/-- What a set is filled with is settled by the answers. -/
theorem FilledSet.unique (steady : allowed.Steady) {source : SetSource} {set other : AddressSet}
    (filled : FilledSet resolvers allowed clusterId source set)
    (filledToo : FilledSet resolvers allowed clusterId source other) : set = other := by
  cases filled with
  | subnets static =>
    cases filledToo with
    | subnets => rfl
    | pods query listed asks read => simp [static] at asks
  | pods query listed asks read =>
    cases filledToo with
    | subnets static => simp [static] at asks
    | pods otherQuery relisted asksToo readToo =>
      cases asks.symm.trans asksToo
      cases steady _ _ _ read readToo
      rfl

/-- Sets can be filled just where each of them can. -/
theorem filledSets_iff {sources : List SetSource} :
    (∃ sets, List.Forall₂ (FilledSet resolvers allowed clusterId) sources sets) ↔
      ∀ source ∈ sources, ∃ set, FilledSet resolvers allowed clusterId source set := by
  induction sources with
  | nil => exact ⟨fun _ => List.forall_mem_nil _, fun _ => ⟨[], .nil⟩⟩
  | cons source rest ih =>
    rw [List.forall_mem_cons, ← ih]
    constructor
    · rintro ⟨_, filled⟩
      cases filled with
      | cons first later => exact ⟨⟨_, first⟩, _, later⟩
    · rintro ⟨⟨_, first⟩, _, later⟩
      exact ⟨_, .cons first later⟩

/-! ### Rules in another order -/

/-- Rules compile just where each of them does and each of the sets that they mention can be
filled. -/
theorem compiledSpec_iff {rules : List Rule} :
    (∃ spec, CompiledSpec resolvers allowed clusterId rules spec) ↔
      (∀ rule ∈ rules, ∃ filter sources,
        CompiledRule resolvers allowed clusterId 0 rule filter sources) ∧
      ∀ source ∈ resolvers.setsOfRules rules,
        ∃ set, FilledSet resolvers allowed clusterId source set := by
  rw [← compiledRules_iff 0, ← filledSets_iff]
  constructor
  · rintro ⟨_, filters, sources, sets, compiled, filled⟩
    rw [compiled.sources_eq] at filled
    exact ⟨⟨filters, sources, compiled⟩, sets, filled⟩
  · rintro ⟨⟨filters, sources, compiled⟩, sets, filled⟩
    refine ⟨_, .mk filters sources sets compiled ?_⟩
    rwa [compiled.sources_eq]

/-- Rules in another order compile just where they do in the one. -/
theorem compiledSpec_perm {rules others : List Rule} (reordered : rules.Perm others) :
    (∃ spec, CompiledSpec resolvers allowed clusterId rules spec) ↔
      ∃ spec, CompiledSpec resolvers allowed clusterId others spec := by
  rw [compiledSpec_iff, compiledSpec_iff, setsOfRules_perm reordered]
  exact and_congr_left' (forall_congr' fun rule => imp_congr_left reordered.mem_iff)

end Resolvers

/-- A list in another order: which of its elements stands in each place. -/
def rearranged {α : Type} (elements : List α) (places : Equiv.Perm (Fin elements.length)) :
    List α :=
  List.ofFn fun place => elements[places place]

/-- A list in another order holds the same elements. -/
theorem rearranged_perm {α : Type} (elements : List α)
    (places : Equiv.Perm (Fin elements.length)) : (rearranged elements places).Perm elements := by
  have reordered := places.ofFn_comp_perm elements.get
  rwa [List.ofFn_get] at reordered

/-- A list in another order has in each place the element that is to stand there. -/
theorem getElem?_rearranged {α : Type} (elements : List α)
    (places : Equiv.Perm (Fin elements.length)) (place : Fin elements.length) :
    (rearranged elements places)[place.val]? = some elements[places place] := by
  simp [rearranged]

namespace FirewallSpec

/-- A configuration without its filter rules. -/
def withoutRules (spec : FirewallSpec) : FirewallSpec :=
  ⟨{ spec.table with chains := spec.table.chains.map fun chain => { chain with rules := ⟨[]⟩ } }⟩

/-- Whether configurations for that many rules, behind the baseline one compiled rule for each, are
alike but that the compiled rules of the second one stand in other places. -/
structure Rearranges {rules : Nat} (places : Equiv.Perm (Fin rules)) (spec other : FirewallSpec) :
    Prop where
  /-- They have the same sets. -/
  sets : other.table.sets = spec.table.sets
  /-- They are the same but for the filter rules of their chains. -/
  alike : other.withoutRules = spec.withoutRules
  /-- There is one chain. -/
  chain : spec.table.chains.length = 1
  /-- The baseline stands first in both. -/
  baseline : spec.filterRules.head? = some baselineRule ∧
    other.filterRules.head? = some baselineRule
  /-- Behind it stands one compiled rule for each rule, also where rules are equal. -/
  count : spec.filterRules.length = rules + 1 ∧ other.filterRules.length = rules + 1
  /-- Names stay in their places, and no two filter rules have the same one. -/
  names : other.filterRules.map (·.name) = spec.filterRules.map (·.name) ∧
    (spec.filterRules.map (·.name)).Nodup
  /-- What is in a place of the second one does what is in the given place of the first one does,
  by the same criteria in the same order. -/
  moved : ∀ place, ∃ filter moved,
    spec.filterRules[(places place).val + 1]? = some filter ∧
    other.filterRules[place.val + 1]? = some moved ∧
    moved.action = filter.action ∧ moved.criteria = filter.criteria

end FirewallSpec

namespace Resolvers

variable {resolvers : Resolvers} {allowed : Answers} {clusterId : String}

/-- Configurations for rules and for the rules in another order are alike. -/
theorem CompiledSpec.rearranges (steady : allowed.Steady) {rules : List Rule}
    {places : Equiv.Perm (Fin rules.length)} {spec other : FirewallSpec}
    (compiled : CompiledSpec resolvers allowed clusterId rules spec)
    (compiledToo : CompiledSpec resolvers allowed clusterId (rearranged rules places) other) :
    spec.Rearranges places other := by
  have contained := compiled.selfContained
  have containedToo := compiledToo.selfContained
  have lengths : (rearranged rules places).length = rules.length :=
    (rearranged_perm rules places).length_eq
  obtain ⟨filters, sources, sets, compiled, filled⟩ := compiled
  obtain ⟨filtersToo, sourcesToo, setsToo, compiledToo, filledToo⟩ := compiledToo
  -- Both orders mention the same sets, and each is filled alike.
  have mentioned : SetSource.arrange sourcesToo = SetSource.arrange sources := by
    rw [compiled.sources_eq, compiledToo.sources_eq]
    exact setsOfRules_perm (rearranged_perm rules places)
  rw [mentioned] at filledToo
  have settled : Relator.RightUnique (FilledSet resolvers allowed clusterId) :=
    fun _ _ _ => FilledSet.unique steady
  obtain rfl : setsToo = sets := settled.forall₂ filledToo filled
  constructor
  case sets => rfl
  case alike => rfl
  case chain => exact contained.chain
  case baseline => exact ⟨contained.baseline, containedToo.baseline⟩
  case count =>
    refine ⟨contained.count.trans (Nat.add_comm _ _), containedToo.count.trans ?_⟩
    rw [lengths, Nat.add_comm]
  case names =>
    refine ⟨?_, contained.rulesDistinct⟩
    rw [filterRules_compiledTable, filterRules_compiledTable, List.map_cons, List.map_cons,
      compiled.names, compiledToo.names, lengths]
  case moved =>
    intro place
    obtain ⟨filter, _, isFilter, compiledHere⟩ :=
      compiled.compiled_at (List.getElem?_eq_getElem (places place).isLt)
    obtain ⟨moved, _, isMoved, compiledThere⟩ :=
      compiledToo.compiled_at (getElem?_rearranged rules places place)
    rw [filterRules_compiledTable, filterRules_compiledTable]
    exact ⟨filter, moved, isFilter, isMoved, compiledThere.unique steady compiledHere⟩

/-- Over a cluster that reads the same each time, rules in another order compile just where they do
in the one, and then to configurations that are alike but that the compiled rules stand in the other
order. -/
theorem compile_rearranged {σ : Type}
    (respond : (query : clusterState.Question) → σ → clusterState.Answer query × σ)
    (cluster : SteadyCluster) (steady : ∀ query s, (respond query s).1 = cluster.answer query)
    (resolvers : Resolvers) (clusterId : String) (rules : List Rule)
    (places : Equiv.Perm (Fin rules.length)) (s t : σ) :
    let compiled (listed : List Rule) (start : σ) : Except CompileError FirewallSpec :=
      ((resolvers.compile clusterId listed).run.run respond start).1
    ((∃ spec, compiled rules s = .ok spec) ↔
      ∃ other, compiled (rearranged rules places) t = .ok other) ∧
    ∀ spec other, compiled rules s = .ok spec → compiled (rearranged rules places) t = .ok other →
      spec.Rearranges places other := by
  simp only [Program.run_eq_eval steady, ← Program.reaches_eval, compile_reaches_ok]
  exact ⟨compiledSpec_perm (rearranged_perm rules places).symm,
    fun spec other => CompiledSpec.rearranges (onlyAnswers_steady cluster)⟩

/-- With the first and the last of four rules exchanged, the two equal ones between them stay two,
and the sets stand as they stood, though they are mentioned in another order. -/
theorem compile_rearranged_exchange :
    let cluster : SteadyCluster :=
      ⟨fun _ => .ok (.v4 ⟨10, 0, 0, 0⟩ 8), fun _ => .ok [.ofIp (some "10.1.0.9")]⟩
    let rules : List Rule := [
      ⟨.allow, some (.ofNamespace "shop"), some (.ofGroup .localCluster)⟩,
      ⟨.deny, some (.ofNamespace "admin"), none⟩,
      ⟨.deny, some (.ofNamespace "admin"), none⟩,
      ⟨.allow, some (.ofGroup .offloaded), some (.ofNamespace "shop")⟩]
    let places : Equiv.Perm (Fin rules.length) := Equiv.swap ⟨0, by decide⟩ ⟨3, by decide⟩
    let compiled (listed : List Rule) (start : Nat) : Except CompileError FirewallSpec :=
      ((Resolvers.compile ⟨[.offloaded, .localCluster], []⟩ "peer" listed).run.run
        (fun query turn => (cluster.answer query, turn + 1)) start).1
    ∃ spec other,
      compiled rules 0 = .ok spec ∧ compiled (rearranged rules places) 7 = .ok other ∧
      other.filterRules.map (·.criteria) = [
        baselineRule.criteria,
        [.onIp "@offloaded" .src, .onIp "@ns-shop" .dst],
        [.onIp "@ns-admin" .src],
        [.onIp "@ns-admin" .src],
        [.onIp "@ns-shop" .src, .onIp "10.0.0.0/8" .dst]] ∧
      spec.Rearranges places other := by
  intro cluster rules places compiled
  have first : compiled rules 0 = .ok ⟨compiledTable
      [⟨"offloaded", .ipv4Addr, [⟨"10.1.0.9"⟩]⟩, ⟨"ns-admin", .ipv4Addr, [⟨"10.1.0.9"⟩]⟩,
        ⟨"ns-shop", .ipv4Addr, [⟨"10.1.0.9"⟩]⟩]
      [baselineRule,
        ⟨"allowed-traffic-0", .accept, [.onIp "@ns-shop" .src, .onIp "10.0.0.0/8" .dst]⟩,
        ⟨"allowed-traffic-1", .drop, [.onIp "@ns-admin" .src]⟩,
        ⟨"allowed-traffic-2", .drop, [.onIp "@ns-admin" .src]⟩,
        ⟨"allowed-traffic-3", .accept, [.onIp "@offloaded" .src, .onIp "@ns-shop" .dst]⟩]⟩ := by
    decide +kernel
  have second : compiled (rearranged rules places) 7 = .ok ⟨compiledTable
      [⟨"offloaded", .ipv4Addr, [⟨"10.1.0.9"⟩]⟩, ⟨"ns-admin", .ipv4Addr, [⟨"10.1.0.9"⟩]⟩,
        ⟨"ns-shop", .ipv4Addr, [⟨"10.1.0.9"⟩]⟩]
      [baselineRule,
        ⟨"allowed-traffic-0", .accept, [.onIp "@offloaded" .src, .onIp "@ns-shop" .dst]⟩,
        ⟨"allowed-traffic-1", .drop, [.onIp "@ns-admin" .src]⟩,
        ⟨"allowed-traffic-2", .drop, [.onIp "@ns-admin" .src]⟩,
        ⟨"allowed-traffic-3", .accept,
          [.onIp "@ns-shop" .src, .onIp "10.0.0.0/8" .dst]⟩]⟩ := by
    decide +kernel
  have alike := (compile_rearranged _ cluster (fun _ _ => rfl) _ _ rules places 0 7).2 _ _ first
    second
  exact ⟨_, _, first, second, rfl, alike⟩

end Resolvers

end PeerFirewall
