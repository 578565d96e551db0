import PeerFirewall.Compile.Strategy
import PeerFirewall.Text.Quoted

/-!
# Validation of rules

Rules are checked before they are stored: every party that is set has to name exactly one of an
enabled group and a namespace whose name is a DNS label. The first party with a fault is reported,
rule by rule and the source of a rule before its destination.
-/
namespace PeerFirewall

/-- A side of a rule. -/
inductive Side where
  | source
  | destination
deriving DecidableEq, Repr

/-- How messages name a side. -/
def Side.text : Side → String
  | source => "source"
  | destination => "destination"

/-- What is wrong with a party. -/
inductive PartyFault where
  /-- Both fields are set, or neither. -/
  | ambiguous
  | invalidNamespace (name : String)
  | disabledGroup (group : Group)
deriving DecidableEq, Repr

/-- A faulty party and where it stands. -/
structure RuleFault where
  rule : Nat
  side : Side
  fault : PartyFault
deriving DecidableEq, Repr

/-- The text of a fault. -/
def RuleFault.message (found : RuleFault) : String :=
  "rule " ++ toString found.rule ++ ": " ++ found.side.text ++
    match found.fault with
    | .ambiguous => " must set exactly one of group or namespace"
    | .invalidNamespace name =>
      " namespace " ++ Text.quoted name ++ " is not a valid namespace name"
    | .disabledGroup group => " resource group " ++ group.name ++ " is not enabled"

/-- Whether a character may begin or end a DNS label. -/
def isLabelEnd (c : Char) : Bool := ('a' ≤ c && c ≤ 'z') || ('0' ≤ c && c ≤ '9')

/-- Whether a character may stand in a DNS label. -/
def isLabelChar (c : Char) : Bool := isLabelEnd c || c = '-'

/-- Whether a text is a DNS label: up to 63 small letters, digits and hyphens, a hyphen neither
first nor last. -/
def isDnsLabel (name : String) : Bool :=
  let chars := name.toList
  name.utf8ByteSize ≤ 63 && chars.head?.any isLabelEnd && chars.getLast?.any isLabelEnd &&
    chars.all isLabelChar

namespace Resolvers

/-- What is wrong with a party, if anything. -/
def partyFault (resolvers : Resolvers) (party : Party) : Option PartyFault :=
  match party.group, party.namespace with
  | some group, none => if resolvers.isEnabled group then none else some (.disabledGroup group)
  | none, some name => if isDnsLabel name then none else some (.invalidNamespace name)
  | some _, some _ | none, none => some .ambiguous

/-- Checks one side of a rule; a side that is left out has no fault. -/
def validateSide (resolvers : Resolvers) (rule : Nat) (side : Side) :
    Option Party → Except RuleFault Unit
  | none => .ok ()
  | some party =>
    match resolvers.partyFault party with
    | none => .ok ()
    | some fault => .error ⟨rule, side, fault⟩

/-- Checks rules from that place on. -/
def validateFrom (resolvers : Resolvers) : Nat → List Rule → Except RuleFault Unit
  | _, [] => .ok ()
  | place, rule :: rest => do
    resolvers.validateSide place .source rule.source
    resolvers.validateSide place .destination rule.destination
    resolvers.validateFrom (place + 1) rest

/-- Checks that every party of every rule can be resolved. -/
def validate (resolvers : Resolvers) (rules : List Rule) : Except RuleFault Unit :=
  resolvers.validateFrom 0 rules

end Resolvers

end PeerFirewall
