import PeerFirewall.Json.Choice
import PeerFirewall.Resource.Kind

/-!
# Firewall configurations

The object that the enforcement engine of the fabric reads: one table of named address sets and of
chains of filter rules. Only the part of the engine's format that a compiled policy uses is here;
members that are not are dropped when an object is read.
-/
namespace PeerFirewall

/-- The addresses a table is about. -/
inductive TableFamily where
  | ipv4
  | ipv6
  | inet
deriving DecidableEq, Repr

/-- Where a chain sees a packet. -/
inductive ChainHook where
  | prerouting
  | input
  | forward
  | output
  | postrouting
deriving DecidableEq, Repr

/-- What a chain does with a packet that no rule decides. -/
inductive ChainPolicy where
  | accept
  | drop
deriving DecidableEq, Repr

/-- What a chain is for. -/
inductive ChainType where
  | filter
  | nat
  | route
deriving DecidableEq, Repr

/-- What a filter rule does with the packets it matches. -/
inductive FilterAction where
  | accept
  | drop
  | reject
deriving DecidableEq, Repr

/-- Whether a criterion has to hold or to fail. -/
inductive MatchOperation where
  | eq
  | neq
deriving DecidableEq, Repr

/-- Which address of a packet a criterion is about. -/
inductive MatchPosition where
  | src
  | dst
deriving DecidableEq, Repr

/-- The state of the connection a packet belongs to. -/
inductive CtState where
  | new
  | established
  | related
  | invalid
deriving DecidableEq, Repr

/-- The type of the elements of a set. -/
inductive SetKeyType where
  | ipv4Addr
deriving DecidableEq, Repr

/-- A criterion on an address: a network, or a set by its reference. -/
structure MatchIp where
  value : String
  position : MatchPosition
deriving DecidableEq, Repr

/-- A criterion on the connection state. -/
structure MatchCtState where
  value : List CtState
deriving DecidableEq, Repr

/-- One criterion of a filter rule. -/
structure Match where
  op : MatchOperation
  ip : Option MatchIp
  ctstate : Option MatchCtState
deriving DecidableEq, Repr

/-- A rule that applies to the packets that meet all its criteria. -/
structure FilterRule where
  name : String
  action : FilterAction
  criteria : List Match
deriving DecidableEq, Repr

/-- The rules of a chain, in order. -/
structure RulesSet where
  filterRules : List FilterRule
deriving DecidableEq, Repr

/-- A chain: the first rule that matches a packet decides it. -/
structure Chain where
  name : String
  hook : ChainHook
  policy : ChainPolicy
  priority : Int32
  type : ChainType
  rules : RulesSet
deriving DecidableEq, Repr

/-- One member of an address set. -/
structure SetElement where
  key : String
deriving DecidableEq, Repr

/-- A named set of addresses. -/
structure AddressSet where
  name : String
  keyType : SetKeyType
  elements : List SetElement
deriving DecidableEq, Repr

/-- A table of sets and chains. -/
structure Table where
  name : String
  family : TableFamily
  sets : List AddressSet
  chains : List Chain
deriving DecidableEq, Repr

/-- The content of a firewall configuration. -/
structure FirewallSpec where
  table : Table
deriving DecidableEq, Repr

/-- A firewall configuration. -/
structure Firewall where
  metadata : Metadata
  spec : FirewallSpec
deriving DecidableEq, Repr

instance : Choice TableFamily where
  all := [.ipv4, .ipv6, .inet]
  name
    | .ipv4 => "IPV4"
    | .ipv6 => "IPV6"
    | .inet => "INET"
  choose_name value := by cases value <;> rfl

instance : Choice ChainHook where
  all := [.prerouting, .input, .forward, .output, .postrouting]
  name
    | .prerouting => "prerouting"
    | .input => "input"
    | .forward => "forward"
    | .output => "output"
    | .postrouting => "postrouting"
  choose_name value := by cases value <;> rfl

instance : Choice ChainPolicy where
  all := [.accept, .drop]
  name
    | .accept => "accept"
    | .drop => "drop"
  choose_name value := by cases value <;> rfl

instance : Choice ChainType where
  all := [.filter, .nat, .route]
  name
    | .filter => "filter"
    | .nat => "nat"
    | .route => "route"
  choose_name value := by cases value <;> rfl

instance : Choice FilterAction where
  all := [.accept, .drop, .reject]
  name
    | .accept => "accept"
    | .drop => "drop"
    | .reject => "reject"
  choose_name value := by cases value <;> rfl

instance : Choice MatchOperation where
  all := [.eq, .neq]
  name
    | .eq => "eq"
    | .neq => "neq"
  choose_name value := by cases value <;> rfl

instance : Choice MatchPosition where
  all := [.src, .dst]
  name
    | .src => "src"
    | .dst => "dst"
  choose_name value := by cases value <;> rfl

instance : Choice CtState where
  all := [.new, .established, .related, .invalid]
  name
    | .new => "new"
    | .established => "established"
    | .related => "related"
    | .invalid => "invalid"
  choose_name value := by cases value <;> rfl

instance : Choice SetKeyType where
  all := [.ipv4Addr]
  name
    | .ipv4Addr => "ipv4_addr"
  choose_name value := by
    cases value
    rfl

namespace Match

/-- The criterion that an address is in a network or a set. -/
def onIp (value : String) (position : MatchPosition) : Match := ⟨.eq, some ⟨value, position⟩, none⟩

/-- The criterion that the connection is in one of the states. -/
def onCtState (states : List CtState) : Match := ⟨.eq, none, some ⟨states⟩⟩

end Match

namespace AddressSet

/-- How a criterion names the set of that name. -/
def reference (name : String) : String := "@" ++ name

end AddressSet

end PeerFirewall
