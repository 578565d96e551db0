import PeerFirewall.Resource.Firewall.Basic

/-!
# Firewall configurations as objects

How the parts of a firewall configuration are written and read. Some lists are left out where they
are empty; all of them may be left out of what is read.
-/
namespace PeerFirewall

namespace MatchIp

/-- A criterion on an address as an object. -/
def encode (ip : MatchIp) : Json :=
  .record [("value", some (.str ip.value)), ("position", some (Choice.encode ip.position))]

/-- The fields of a criterion on an address. -/
def fields : Record MatchIp :=
  MatchIp.mk
  <$> Record.field "value" Decoder.string
  <*> Record.field "position" Choice.decode

/-- Reads a criterion on an address. -/
def decode : Decoder MatchIp := fields.decode "MatchIp"

end MatchIp

namespace MatchCtState

/-- A criterion on the connection state as an object. -/
def encode (ctstate : MatchCtState) : Json :=
  .record [("value", some (Json.list Choice.encode ctstate.value))]

/-- The fields of a criterion on the connection state. -/
def fields : Record MatchCtState :=
  MatchCtState.mk <$> Record.field "value" (Decoder.list Choice.decode)

/-- Reads a criterion on the connection state. -/
def decode : Decoder MatchCtState := fields.decode "MatchCtState"

end MatchCtState

namespace Match

/-- A criterion as an object. -/
def encode (criterion : Match) : Json :=
  .record [
    ("op", some (Choice.encode criterion.op)),
    ("ip", criterion.ip.map MatchIp.encode),
    ("ctstate", criterion.ctstate.map MatchCtState.encode)]

/-- The fields of a criterion. -/
def fields : Record Match :=
  Match.mk
  <$> Record.field "op" Choice.decode
  <*> Record.optionalField "ip" MatchIp.decode
  <*> Record.optionalField "ctstate" MatchCtState.decode

/-- Reads a criterion. -/
def decode : Decoder Match := fields.decode "Match"

end Match

namespace FilterRule

/-- A filter rule as an object. -/
def encode (rule : FilterRule) : Json :=
  .record [
    ("name", some (.str rule.name)),
    ("action", some (Choice.encode rule.action)),
    ("match", some (Json.list Match.encode rule.criteria))]

/-- The fields of a filter rule. -/
def fields : Record FilterRule :=
  FilterRule.mk
  <$> Record.field "name" Decoder.string
  <*> Record.field "action" Choice.decode
  <*> Record.fieldWithDefault "match" (Decoder.list Match.decode) []

/-- Reads a filter rule. -/
def decode : Decoder FilterRule := fields.decode "FilterRule"

end FilterRule

/-- A list that is written only if it is not empty. -/
def encodeNonempty {α : Type} (encode : α → Json) (elements : List α) : Option Json :=
  if elements.isEmpty then none else some (Json.list encode elements)

namespace RulesSet

/-- The rules of a chain as an object. -/
def encode (rules : RulesSet) : Json :=
  .record [("filterRules", encodeNonempty FilterRule.encode rules.filterRules)]

/-- The fields of the rules of a chain. -/
def fields : Record RulesSet :=
  RulesSet.mk <$> Record.fieldWithDefault "filterRules" (Decoder.list FilterRule.decode) []

/-- Reads the rules of a chain. -/
def decode : Decoder RulesSet := fields.decode "RulesSet"

end RulesSet

namespace Chain

/-- A chain as an object. -/
def encode (chain : Chain) : Json :=
  .record [
    ("name", some (.str chain.name)),
    ("hook", some (Choice.encode chain.hook)),
    ("policy", some (Choice.encode chain.policy)),
    ("priority", some (.int chain.priority.toInt)),
    ("type", some (Choice.encode chain.type)),
    ("rules", some chain.rules.encode)]

/-- The fields of a chain. -/
def fields : Record Chain :=
  Chain.mk
  <$> Record.field "name" Decoder.string
  <*> Record.field "hook" Choice.decode
  <*> Record.field "policy" Choice.decode
  <*> Record.field "priority" Decoder.int32
  <*> Record.field "type" Choice.decode
  <*> Record.field "rules" RulesSet.decode

/-- Reads a chain. -/
def decode : Decoder Chain := fields.decode "Chain"

end Chain

namespace SetElement

/-- A member of a set as an object. -/
def encode (element : SetElement) : Json := .record [("key", some (.str element.key))]

/-- The fields of a member of a set. -/
def fields : Record SetElement := SetElement.mk <$> Record.field "key" Decoder.string

/-- Reads a member of a set. -/
def decode : Decoder SetElement := fields.decode "SetElement"

end SetElement

namespace AddressSet

/-- An address set as an object. -/
def encode (set : AddressSet) : Json :=
  .record [
    ("name", some (.str set.name)),
    ("keyType", some (Choice.encode set.keyType)),
    ("elements", some (Json.list SetElement.encode set.elements))]

/-- The fields of an address set. -/
def fields : Record AddressSet :=
  AddressSet.mk
  <$> Record.field "name" Decoder.string
  <*> Record.field "keyType" Choice.decode
  <*> Record.fieldWithDefault "elements" (Decoder.list SetElement.decode) []

/-- Reads an address set. -/
def decode : Decoder AddressSet := fields.decode "Set"

end AddressSet

namespace Table

/-- A table as an object. -/
def encode (table : Table) : Json :=
  .record [
    ("name", some (.str table.name)),
    ("family", some (Choice.encode table.family)),
    ("sets", encodeNonempty AddressSet.encode table.sets),
    ("chains", some (Json.list Chain.encode table.chains))]

/-- The fields of a table. -/
def fields : Record Table :=
  Table.mk
  <$> Record.field "name" Decoder.string
  <*> Record.field "family" Choice.decode
  <*> Record.fieldWithDefault "sets" (Decoder.list AddressSet.decode) []
  <*> Record.fieldWithDefault "chains" (Decoder.list Chain.decode) []

/-- Reads a table. -/
def decode : Decoder Table := fields.decode "Table"

end Table

namespace FirewallSpec

/-- The content of a firewall configuration as an object. -/
def encode (spec : FirewallSpec) : Json := .record [("table", some spec.table.encode)]

/-- The fields of the content of a firewall configuration. -/
def fields : Record FirewallSpec := FirewallSpec.mk <$> Record.field "table" Table.decode

/-- Reads the content of a firewall configuration. -/
def decode : Decoder FirewallSpec := fields.decode "FirewallConfigurationSpec"

end FirewallSpec

namespace Firewall

/-- A firewall configuration as an object. -/
def encode (firewall : Firewall) : Json :=
  .record (Resource.typeMembers .firewall ++ [
    ("metadata", some firewall.metadata.encode),
    ("spec", some firewall.spec.encode)])

/-- The fields of a firewall configuration. -/
def fields : Record Firewall :=
  Firewall.mk
  <$> Record.field "metadata" Metadata.decode
  <*> Record.field "spec" FirewallSpec.decode

/-- Reads a firewall configuration. -/
def decode : Decoder Firewall := fields.decode "FirewallConfiguration"

instance : Resource Firewall where
  kind := .firewall
  metadata := Firewall.metadata
  encode := encode
  decode := decode

end Firewall

end PeerFirewall
