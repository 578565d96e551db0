import PeerFirewall.Compile.Strategy

/-!
# Compiling rules

The rules of a policy become one chain: a rule that accepts established and related connections,
then one filter rule for each rule, in order and without merging equal ones. The networks are read
where a rule mentions them; after all rules, every set that some rule mentions is filled once.
-/
namespace PeerFirewall

/-- A step of compilation: it may ask about the cluster and it may fail. -/
abbrev Compilation (α : Type) := ExceptT CompileError (Program clusterState) α

/-- The query for a network. -/
def CidrSource.query (clusterId : String) : CidrSource → CidrQuery
  | .localPods => .localPods
  | .remotePods => .remotePods clusterId
  | .remoteExternal => .remoteExternal clusterId

/-- The query for the pods of a set; the private ranges need none. -/
def SetSource.query? (clusterId : String) : SetSource → Option PodQuery
  | .offloaded => some (.offloadedFrom clusterId)
  | .virtualClusterLocal => some .inOffloadedNamespaces
  | .virtualClusterRemote => some (.shadowsOf clusterId)
  | .privateSubnets => none
  | .ofNamespace name => some (.inNamespace name)

namespace Compilation

/-- An answer about the cluster, its failure blamed on what was to be resolved. -/
def resolved {α : Type} (target : String) (answer : Except ReadError α) : Except CompileError α :=
  answer.mapError (CompileError.unresolved target)

/-- Asks for a network. -/
def askCidr (target : String) (query : CidrQuery) : Compilation Net.Cidr :=
  ExceptT.mk (.ask (Query.cidr query) fun answer => .done (resolved target answer))

/-- Asks for pods. -/
def askPods (target : String) (query : PodQuery) : Compilation (List Pod) :=
  ExceptT.mk (.ask (Query.pods query) fun answer => .done (resolved target answer))

end Compilation

/-- The addresses of the pods that have one, in ascending order of their text; equal ones stay. -/
def podAddresses (pods : List Pod) : List String :=
  ((pods.filterMap (·.podIp)).filter (· ≠ "")).mergeSort fun a b => decide (a ≤ b)

/-- The set of the addresses of pods. -/
def podSet (name : String) (pods : List Pod) : AddressSet :=
  ⟨name, .ipv4Addr, (podAddresses pods).map SetElement.mk⟩

/-- The set of networks, in the given order. -/
def subnetSet (name : String) (subnets : List Net.Cidr) : AddressSet :=
  ⟨name, .ipv4Addr, subnets.map fun subnet => ⟨subnet.text⟩⟩

namespace Resolvers

/-- The criterion for a party that is matched in that way. -/
def criterion (clusterId : String) (strategy : Strategy) (position : MatchPosition) :
    Compilation Match :=
  match strategy with
  | .set source => pure (.onIp (AddressSet.reference source.setName) position)
  | .cidr source => do
    let network ← Compilation.askCidr source.text (source.query clusterId)
    return .onIp network.text position

/-- Fills a set. -/
def makeSet (resolvers : Resolvers) (clusterId : String) (source : SetSource) :
    Compilation AddressSet :=
  match source.query? clusterId with
  | none => pure (subnetSet source.setName resolvers.privateSubnets)
  | some query => do
    let pods ← Compilation.askPods source.text query
    return podSet source.setName pods

/-- The criteria for one side of a rule and the sets they mention; a side that is left out has
none. -/
def compileSide (resolvers : Resolvers) (clusterId : String) (position : MatchPosition) :
    Option Party → Compilation (List Match × List SetSource)
  | none => pure ([], [])
  | some party => do
    let strategy ← ExceptT.mk (.done (resolvers.strategy party))
    let criterion ← criterion clusterId strategy position
    return ([criterion], strategy.sets)

end Resolvers

/-- What a compiled rule does for an action. -/
def RuleAction.compiled : RuleAction → FilterAction
  | .allow => .accept
  | .deny => .drop

/-- The rule that stands first in every chain. -/
def baselineRule : FilterRule :=
  ⟨"allow-established-related", .accept, [.onCtState [.established, .related]]⟩

/-- The name of the compiled rule in that place. -/
def compiledRuleName (place : Nat) : String := "allowed-traffic-" ++ toString place

/-- The table that holds compiled rules and sets. -/
def compiledTable (sets : List AddressSet) (rules : List FilterRule) : Table where
  name := "cluster-security"
  family := .ipv4
  sets := sets
  chains := [{
    name := "cluster-security-filter"
    hook := .postrouting
    policy := .accept
    priority := 200
    type := .filter
    rules := ⟨rules⟩ }]

namespace Resolvers

/-- The filter rule for one rule, and the sets it mentions. -/
def compileRule (resolvers : Resolvers) (clusterId : String) (place : Nat) (rule : Rule) :
    Compilation (FilterRule × List SetSource) := do
  let (source, sourceSets) ← resolvers.compileSide clusterId .src rule.source
  let (destination, destinationSets) ← resolvers.compileSide clusterId .dst rule.destination
  return (⟨compiledRuleName place, rule.action.compiled, source ++ destination⟩,
    sourceSets ++ destinationSets)

/-- The filter rules for rules from that place on, and the sets they mention. -/
def compileRules (resolvers : Resolvers) (clusterId : String) :
    Nat → List Rule → Compilation (List FilterRule × List SetSource)
  | _, [] => pure ([], [])
  | place, rule :: rest => do
    let (compiled, sets) ← resolvers.compileRule clusterId place rule
    let (others, otherSets) ← resolvers.compileRules clusterId (place + 1) rest
    return (compiled :: others, sets ++ otherSets)

/-- Fills sets, one after the other. -/
def makeSets (resolvers : Resolvers) (clusterId : String) :
    List SetSource → Compilation (List AddressSet)
  | [] => pure []
  | source :: rest => do
    let set ← resolvers.makeSet clusterId source
    let others ← resolvers.makeSets clusterId rest
    return set :: others

/-- The firewall configuration for the peer of that identifier. -/
def compile (resolvers : Resolvers) (clusterId : String) (rules : List Rule) :
    Compilation FirewallSpec := do
  let (compiled, sources) ← resolvers.compileRules clusterId 0 rules
  let sets ← resolvers.makeSets clusterId (SetSource.arrange sources)
  return ⟨compiledTable sets (baselineRule :: compiled)⟩

end Resolvers

end PeerFirewall
