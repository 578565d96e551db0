import PeerFirewall.Compile.Query
import PeerFirewall.Resource.Firewall
import PeerFirewall.Resource.Policy

/-!
# How a party is matched

A party is matched either by one announced network or by a named set of addresses. Parties that
stand for the same addresses share one set, and different sets have different names.
-/
namespace PeerFirewall

/-- The network that stands for a group. -/
inductive CidrSource where
  | localPods
  | remotePods
  | remoteExternal
deriving DecidableEq, Repr

/-- What the elements of a set are taken from. -/
inductive SetSource where
  | offloaded
  | virtualClusterLocal
  | virtualClusterRemote
  | privateSubnets
  | ofNamespace (name : String)
deriving DecidableEq, Repr

/-- How a party is matched. -/
inductive Strategy where
  | cidr (source : CidrSource)
  | set (source : SetSource)
deriving DecidableEq, Repr

namespace CidrSource

/-- The group that the network stands for. -/
def group : CidrSource → Group
  | localPods => .localCluster
  | remotePods => .remoteCluster
  | remoteExternal => .leaf

/-- How messages name the source. -/
def text (source : CidrSource) : String := source.group.name

end CidrSource

namespace SetSource

/-- The name of the set. -/
def setName : SetSource → String
  | offloaded => "offloaded"
  | virtualClusterLocal => "vclocal"
  | virtualClusterRemote => "vcremote"
  | privateSubnets => "privatesubnets"
  | ofNamespace name => "ns-" ++ name

/-- How messages name the source. -/
def text : SetSource → String
  | offloaded => Group.offloaded.name
  | virtualClusterLocal => Group.virtualClusterLocal.name
  | virtualClusterRemote => Group.virtualClusterRemote.name
  | privateSubnets => Group.privateSubnets.name
  | ofNamespace name => "namespace " ++ name

/-- The place of a source among the kinds of sources. -/
def rank : SetSource → Nat
  | offloaded => 0
  | virtualClusterLocal => 1
  | virtualClusterRemote => 2
  | privateSubnets => 3
  | ofNamespace _ => 4

/-- Whether the set of one source stands before that of another: the groups in their order, then
the namespaces by name. -/
def before : SetSource → SetSource → Bool
  | ofNamespace a, ofNamespace b => a < b
  | a, b => a.rank < b.rank

/-- Puts a source in its place, unless it is there. -/
def insert (source : SetSource) : List SetSource → List SetSource
  | [] => [source]
  | other :: rest =>
    if source = other then other :: rest
    else if source.before other then source :: other :: rest
    else other :: insert source rest

/-- Each source once, in order. -/
def arrange (sources : List SetSource) : List SetSource :=
  sources.foldr insert []

end SetSource

namespace Strategy

/-- How a group is matched. -/
def ofGroup : Group → Strategy
  | .localCluster => cidr .localPods
  | .remoteCluster => cidr .remotePods
  | .leaf => cidr .remoteExternal
  | .offloaded => set .offloaded
  | .virtualClusterLocal => set .virtualClusterLocal
  | .virtualClusterRemote => set .virtualClusterRemote
  | .privateSubnets => set .privateSubnets

/-- The set that the strategy needs, if any. -/
def sets : Strategy → List SetSource
  | cidr _ => []
  | set source => [source]

end Strategy

/-- Why rules have no compiled form. -/
inductive CompileError where
  /-- A party does not set exactly one of its fields, or names the empty namespace. -/
  | invalidParty
  /-- A party names a group that is not enabled. -/
  | unknownGroup (group : Group)
  /-- What `target` stands for could not be read. -/
  | unresolved (target : String) (cause : ReadError)
deriving DecidableEq, Repr

namespace CompileError

/-- The text of the error. -/
def message : CompileError → String
  | invalidParty => "party must set exactly one of group or namespace"
  | unknownGroup group => "unknown resource group " ++ group.name
  | unresolved target cause => "failed to resolve " ++ target ++ ": " ++ cause.message

end CompileError

/-- The groups that policies may use, and the ranges that count as private. -/
structure Resolvers where
  enabled : List Group
  privateSubnets : List Net.Cidr
deriving DecidableEq, Repr

namespace Resolvers

/-- Whether policies may use the group. -/
def isEnabled (resolvers : Resolvers) (group : Group) : Bool := group ∈ resolvers.enabled

/-- How a party is matched, if it sets exactly one field to something that can be. -/
def strategy (resolvers : Resolvers) (party : Party) : Except CompileError Strategy :=
  match party.group, party.namespace with
  | some group, none =>
    if resolvers.isEnabled group then .ok (.ofGroup group) else .error (.unknownGroup group)
  | none, some name => if name ≠ "" then .ok (.set (.ofNamespace name)) else .error .invalidParty
  | some _, some _ | none, none => .error .invalidParty

end Resolvers

end PeerFirewall
