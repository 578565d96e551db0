import PeerFirewall.Proofs.Compile.References

/-!
# What happens to a packet

Two readings of the same intent. A table decides a packet by the first filter rule of a chain that
matches it, with sets looked up by name (`Chain.fate`). A policy decides it by the first rule
whose sides contain its addresses, where what a party contains is read from the cluster
(`PolicyView.fate`). Neither reading mentions the compiler. Which addresses a text covers is left
open.
-/
namespace PeerFirewall

/-- What becomes of a packet. -/
inductive Fate where
  | accepted
  | dropped
  | rejected
deriving DecidableEq, Repr

/-- What matters of a packet. -/
structure Packet (Address : Type) where
  source : Address
  destination : Address
  state : CtState

/-- The address of a packet in a position. -/
def Packet.address {Address : Type} (packet : Packet Address) : MatchPosition → Address
  | .src => packet.source
  | .dst => packet.destination

variable {Address : Type} (covers : String → Address → Bool)

/-! ### By a table -/

/-- What a filter rule makes of the packets that it matches. -/
def FilterAction.fate : FilterAction → Fate
  | accept => .accepted
  | drop => .dropped
  | reject => .rejected

/-- What a chain makes of the packets that no rule matches. -/
def ChainPolicy.fate : ChainPolicy → Fate
  | accept => .accepted
  | drop => .dropped

/-- Whether a member of a set covers an address. -/
def AddressSet.contains (set : AddressSet) (address : Address) : Bool :=
  set.elements.any fun element => covers element.key address

/-- Whether a value, a network or a reference to one of the sets, covers an address. -/
def AddressSet.valueContains (sets : List AddressSet) (value : String) (address : Address) : Bool :=
  match referred? value with
  | some name =>
    match sets.find? fun set => set.name = name with
    | some set => set.contains covers address
    | none => false
  | none => covers value address

/-- Whether a criterion holds of a packet. -/
def Match.holds (sets : List AddressSet) (packet : Packet Address) (criterion : Match) : Bool :=
  let met :=
    criterion.ip.all (fun ip =>
      AddressSet.valueContains covers sets ip.value (packet.address ip.position)) &&
    criterion.ctstate.all fun ctstate => ctstate.value.contains packet.state
  match criterion.op with
  | .eq => met
  | .neq => !met

/-- Whether a filter rule matches a packet. -/
def FilterRule.applies (sets : List AddressSet) (packet : Packet Address) (rule : FilterRule) :
    Bool :=
  rule.criteria.all fun criterion => criterion.holds covers sets packet

/-- What a chain makes of a packet: its first rule that matches decides, else its policy. -/
def Chain.fate (sets : List AddressSet) (packet : Packet Address) (chain : Chain) : Fate :=
  match chain.rules.filterRules.find? fun rule => rule.applies covers sets packet with
  | some rule => rule.action.fate
  | none => chain.policy.fate

/-! ### By a policy -/

/-- What a rule makes of the packets that it applies to. -/
def RuleAction.fate : RuleAction → Fate
  | allow => .accepted
  | deny => .dropped

/-- Whether an answered network covers an address. -/
def networkContains (network : Except ReadError Net.Cidr) (address : Address) : Bool :=
  match network with
  | .ok network => covers network.text address
  | .error _ => false

/-- Whether the address of one of the answered pods covers an address; a pod whose address is
missing or empty covers none. -/
def podsContain (pods : Except ReadError (List Pod)) (address : Address) : Bool :=
  match pods with
  | .ok pods => pods.any fun pod =>
      match pod.podIp with
      | some ip => ip ≠ "" && covers ip address
      | none => false
  | .error _ => false

/-- What the parties of a policy are read from: the private ranges, the cluster and the peer. -/
structure PolicyView where
  privateSubnets : List Net.Cidr
  cluster : SteadyCluster
  clusterId : String

namespace PolicyView

variable (view : PolicyView)

/-- Whether a group contains an address. -/
def groupContains (group : Group) (address : Address) : Bool :=
  match group with
  | .localCluster => networkContains covers (view.cluster.network .localPods) address
  | .remoteCluster =>
    networkContains covers (view.cluster.network (.remotePods view.clusterId)) address
  | .leaf => networkContains covers (view.cluster.network (.remoteExternal view.clusterId)) address
  | .offloaded => podsContain covers (view.cluster.pods (.offloadedFrom view.clusterId)) address
  | .virtualClusterLocal => podsContain covers (view.cluster.pods .inOffloadedNamespaces) address
  | .virtualClusterRemote =>
    podsContain covers (view.cluster.pods (.shadowsOf view.clusterId)) address
  | .privateSubnets => view.privateSubnets.any fun subnet => covers subnet.text address

/-- Whether a party contains an address: its group, or the pods of its namespace. -/
def partyContains (party : Party) (address : Address) : Bool :=
  match party.group, party.namespace with
  | some group, none => view.groupContains covers group address
  | none, some name => podsContain covers (view.cluster.pods (.inNamespace name)) address
  | _, _ => false

/-- Whether a side of a rule contains an address; a side that is left out contains all. -/
def sideContains (side : Option Party) (address : Address) : Bool :=
  side.all fun party => view.partyContains covers party address

/-- Whether a rule applies to a packet. -/
def ruleApplies (packet : Packet Address) (rule : Rule) : Bool :=
  view.sideContains covers rule.source packet.source &&
    view.sideContains covers rule.destination packet.destination

/-- What rules make of a packet: one of a known connection is accepted, else the first rule that
applies decides, and what no rule applies to is accepted. -/
def fate (rules : List Rule) (packet : Packet Address) : Fate :=
  if packet.state = .established ∨ packet.state = .related then .accepted
  else
    match rules.find? fun rule => view.ruleApplies covers packet rule with
    | some rule => rule.action.fate
    | none => .accepted

end PolicyView

end PeerFirewall
