import PeerFirewall.Json.Decoder

/-!
# Resource groups

A policy names a party by one of seven groups of pods and networks. Every group has a canonical
name, under which it is written, and two have a short name that is accepted as well. Objects spell
the names exactly; on the command line the case of ASCII letters does not matter. Objects and the
command line each have their own table of names, and the schema is made of the latter.
-/
namespace PeerFirewall

/-- A named group of pods or networks that a party of a rule may stand for. -/
inductive Group where
  /-- Pods of the local cluster. -/
  | localCluster
  /-- Pods of the peer cluster. -/
  | remoteCluster
  /-- Pods offloaded to this cluster by the peer. -/
  | offloaded
  /-- Local pods in namespaces that are offloaded to peers. -/
  | virtualClusterLocal
  /-- Shadow pods that stand for workloads running on the peer. -/
  | virtualClusterRemote
  /-- The private ranges set on the command line. -/
  | privateSubnets
  /-- The external network of the peer. -/
  | leaf
deriving DecidableEq, Repr

namespace Group

/-- Every group, in the order of declaration. -/
def all : List Group :=
  [localCluster, remoteCluster, offloaded, virtualClusterLocal, virtualClusterRemote,
    privateSubnets, leaf]

/-- The canonical name. -/
def name : Group → String
  | localCluster => "local-cluster"
  | remoteCluster => "remote-cluster"
  | offloaded => "offloaded"
  | virtualClusterLocal => "virtual-cluster-local"
  | virtualClusterRemote => "virtual-cluster-remote"
  | privateSubnets => "private-subnets"
  | leaf => "leaf"

/-- The short names. -/
def aliases : List (String × Group) :=
  [("vc-local", virtualClusterLocal), ("vc-remote", virtualClusterRemote)]

/-- The names that the schema of the policy kind admits: the canonical ones, then the short ones. -/
def schemaNames : List String := all.map name ++ aliases.map (·.1)

/-- The name under which objects hold a group. -/
def written : Group → String
  | localCluster => "local-cluster"
  | remoteCluster => "remote-cluster"
  | offloaded => "offloaded"
  | virtualClusterLocal => "virtual-cluster-local"
  | virtualClusterRemote => "virtual-cluster-remote"
  | privateSubnets => "private-subnets"
  | leaf => "leaf"

/-- The short name under which objects may hold a group as well. -/
def short? : Group → Option String
  | virtualClusterLocal => some "vc-local"
  | virtualClusterRemote => some "vc-remote"
  | _ => none

/-- The names that objects may use, the short name of a group before the one that is written. -/
def choices : List (String × Group) :=
  all.flatMap fun group => (group.short?.toList ++ [group.written]).map fun text => (text, group)

/-- A group as the name under which objects hold it. -/
def encode (group : Group) : Json := .str group.written

/-- Objects hold a group under its canonical name. -/
@[simp] theorem written_eq_name (group : Group) : group.written = group.name := by
  cases group <;> rfl

/-- Reads a group by any of its names. -/
def decode : Decoder Group := Decoder.choice choices

/-- A character with an upper-case ASCII letter made lower-case. -/
def lowerAscii (c : Char) : Char := if 'A' ≤ c ∧ c ≤ 'Z' then c.toLower else c

/-- Whether two texts are equal up to the case of ASCII letters. -/
def eqIgnoringCase (a b : String) : Bool :=
  a.toList.map lowerAscii = b.toList.map lowerAscii

/-- The group of a name in any case: a canonical name before a short one. -/
def parse? (text : String) : Option Group :=
  ((all.map fun group => (group.name, group)) ++ aliases).find?
    (fun entry => eqIgnoringCase entry.1 text) |>.map (·.2)

/-- The message for a text that names no group. -/
def unknownMessage (text : String) : String := "unknown resource group: " ++ text

end Group

end PeerFirewall
