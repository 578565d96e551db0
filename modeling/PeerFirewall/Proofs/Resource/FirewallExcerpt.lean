import PeerFirewall.Proofs.Json.Excerpt
import PeerFirewall.Proofs.Resource.Firewall

/-!
# What is looked at in a firewall configuration

The content of a firewall configuration, as it is read, says nothing about members that it does not
name, in the content itself and in each part of it. `FirewallSpec.excerpt` is what it says
something about, and this is what the content read is written as (`FirewallSpec.excerpt_faithful`).
-/
namespace PeerFirewall

open Record (field_aligned fieldWithDefault_aligned)

/-- A list that is left out where it is empty is pruned to the same as one that is written. -/
theorem prunedField_encodeNonempty {α : Type} (encode : α → Json) (elements : List α) :
    Json.prunedField (encodeNonempty encode elements) =
      Json.prunedField (some (Json.list encode elements)) := by
  cases elements with
  | nil => exact (Json.prunedField_list_nil encode).symm
  | cons head rest => rfl

namespace MatchIp

/-- What is looked at in a criterion on an address. -/
def excerpt : Excerpt := .record [("value", .whole), ("position", .choice)]

/-- A criterion on an address that is read is written as what is looked at. -/
theorem excerpt_faithful : excerpt.Faithful decode encode := by
  have aligned : fields.Aligned := ((field_aligned _ _).map _).seq (field_aligned _ _)
  refine Excerpt.faithful_record rfl aligned (by decide) fun members ip reads => ?_
  simp only [fields, Record.reads_seq, Record.reads_map] at reads
  obtain ⟨_, ⟨_, value, rfl⟩, _, position, rfl⟩ := reads
  simp only [List.map_cons, List.map_nil, Excerpt.faithful_string.field value,
    Excerpt.faithful_choice.field position]

end MatchIp

namespace MatchCtState

/-- What is looked at in a criterion on the connection state. -/
def excerpt : Excerpt := .record [("value", .list .choice)]

/-- A criterion on the connection state that is read is written as what is looked at. -/
theorem excerpt_faithful : excerpt.Faithful decode encode := by
  have aligned : fields.Aligned := (field_aligned _ _).map _
  refine Excerpt.faithful_record rfl aligned (by decide) fun members ctstate reads => ?_
  simp only [fields, Record.reads_map] at reads
  obtain ⟨_, value, rfl⟩ := reads
  simp only [List.map_cons, List.map_nil, Excerpt.faithful_choice.list.field value]

end MatchCtState

namespace Match

/-- What is looked at in a criterion. -/
def excerpt : Excerpt :=
  .record [("op", .choice), ("ip", MatchIp.excerpt), ("ctstate", MatchCtState.excerpt)]

/-- A criterion that is read is written as what is looked at. -/
theorem excerpt_faithful : excerpt.Faithful decode encode := by
  have aligned : fields.Aligned := (((field_aligned _ _).map _).seq
    (fieldWithDefault_aligned _ _ _)).seq (fieldWithDefault_aligned _ _ _)
  refine Excerpt.faithful_record rfl aligned (by decide) fun members criterion reads => ?_
  simp only [fields, Record.reads_seq, Record.reads_map] at reads
  obtain ⟨_, ⟨_, ⟨_, op, rfl⟩, _, ip, rfl⟩, _, ctstate, rfl⟩ := reads
  simp only [List.map_cons, List.map_nil, Excerpt.faithful_choice.field op,
    MatchIp.excerpt_faithful.optionalField ip, MatchCtState.excerpt_faithful.optionalField ctstate]

end Match

namespace FilterRule

/-- What is looked at in a filter rule. -/
def excerpt : Excerpt :=
  .record [("name", .whole), ("action", .choice), ("match", .list Match.excerpt)]

/-- A filter rule that is read is written as what is looked at. -/
theorem excerpt_faithful : excerpt.Faithful decode encode := by
  have aligned : fields.Aligned := (((field_aligned _ _).map _).seq (field_aligned _ _)).seq
    (fieldWithDefault_aligned _ _ _)
  refine Excerpt.faithful_record rfl aligned (by decide) fun members rule reads => ?_
  simp only [fields, Record.reads_seq, Record.reads_map] at reads
  obtain ⟨_, ⟨_, ⟨_, name, rfl⟩, _, action, rfl⟩, _, criteria, rfl⟩ := reads
  simp only [List.map_cons, List.map_nil, Excerpt.faithful_string.field name,
    Excerpt.faithful_choice.field action, Match.excerpt_faithful.listField criteria]

end FilterRule

namespace RulesSet

/-- What is looked at in the rules of a chain. -/
def excerpt : Excerpt := .record [("filterRules", .list FilterRule.excerpt)]

/-- The rules of a chain that are read are written as what is looked at. -/
theorem excerpt_faithful : excerpt.Faithful decode encode := by
  have aligned : fields.Aligned := (fieldWithDefault_aligned _ _ _).map _
  refine Excerpt.faithful_record rfl aligned (by decide) fun members rules reads => ?_
  simp only [fields, Record.reads_map] at reads
  obtain ⟨_, filterRules, rfl⟩ := reads
  simp only [List.map_cons, List.map_nil, FilterRule.excerpt_faithful.listField filterRules,
    prunedField_encodeNonempty]

end RulesSet

namespace Chain

/-- What is looked at in a chain. -/
def excerpt : Excerpt :=
  .record [
    ("name", .whole),
    ("hook", .choice),
    ("policy", .choice),
    ("priority", .whole),
    ("type", .choice),
    ("rules", RulesSet.excerpt)]

/-- A chain that is read is written as what is looked at. -/
theorem excerpt_faithful : excerpt.Faithful decode encode := by
  have aligned : fields.Aligned := ((((((field_aligned _ _).map _).seq (field_aligned _ _)).seq
    (field_aligned _ _)).seq (field_aligned _ _)).seq (field_aligned _ _)).seq (field_aligned _ _)
  refine Excerpt.faithful_record rfl aligned (by decide) fun members chain reads => ?_
  simp only [fields, Record.reads_seq, Record.reads_map] at reads
  obtain ⟨_, ⟨_, ⟨_, ⟨_, ⟨_, ⟨_, name, rfl⟩, _, hook, rfl⟩, _, policy, rfl⟩, _, priority, rfl⟩,
    _, type, rfl⟩, _, rules, rfl⟩ := reads
  simp only [List.map_cons, List.map_nil, Excerpt.faithful_string.field name,
    Excerpt.faithful_choice.field hook, Excerpt.faithful_choice.field policy,
    Excerpt.faithful_int32.field priority, Excerpt.faithful_choice.field type,
    RulesSet.excerpt_faithful.field rules]

end Chain

namespace SetElement

/-- What is looked at in a member of a set. -/
def excerpt : Excerpt := .record [("key", .whole)]

/-- A member of a set that is read is written as what is looked at. -/
theorem excerpt_faithful : excerpt.Faithful decode encode := by
  have aligned : fields.Aligned := (field_aligned _ _).map _
  refine Excerpt.faithful_record rfl aligned (by decide) fun members element reads => ?_
  simp only [fields, Record.reads_map] at reads
  obtain ⟨_, key, rfl⟩ := reads
  simp only [List.map_cons, List.map_nil, Excerpt.faithful_string.field key]

end SetElement

namespace AddressSet

/-- What is looked at in an address set. -/
def excerpt : Excerpt :=
  .record [("name", .whole), ("keyType", .choice), ("elements", .list SetElement.excerpt)]

/-- An address set that is read is written as what is looked at. -/
theorem excerpt_faithful : excerpt.Faithful decode encode := by
  have aligned : fields.Aligned := (((field_aligned _ _).map _).seq (field_aligned _ _)).seq
    (fieldWithDefault_aligned _ _ _)
  refine Excerpt.faithful_record rfl aligned (by decide) fun members set reads => ?_
  simp only [fields, Record.reads_seq, Record.reads_map] at reads
  obtain ⟨_, ⟨_, ⟨_, name, rfl⟩, _, keyType, rfl⟩, _, elements, rfl⟩ := reads
  simp only [List.map_cons, List.map_nil, Excerpt.faithful_string.field name,
    Excerpt.faithful_choice.field keyType, SetElement.excerpt_faithful.listField elements]

end AddressSet

namespace Table

/-- What is looked at in a table. -/
def excerpt : Excerpt :=
  .record [
    ("name", .whole),
    ("family", .choice),
    ("sets", .list AddressSet.excerpt),
    ("chains", .list Chain.excerpt)]

/-- A table that is read is written as what is looked at. -/
theorem excerpt_faithful : excerpt.Faithful decode encode := by
  have aligned : fields.Aligned := ((((field_aligned _ _).map _).seq (field_aligned _ _)).seq
    (fieldWithDefault_aligned _ _ _)).seq (fieldWithDefault_aligned _ _ _)
  refine Excerpt.faithful_record rfl aligned (by decide) fun members table reads => ?_
  simp only [fields, Record.reads_seq, Record.reads_map] at reads
  obtain ⟨_, ⟨_, ⟨_, ⟨_, name, rfl⟩, _, family, rfl⟩, _, sets, rfl⟩, _, chains, rfl⟩ := reads
  simp only [List.map_cons, List.map_nil, Excerpt.faithful_string.field name,
    Excerpt.faithful_choice.field family, AddressSet.excerpt_faithful.listField sets,
    Chain.excerpt_faithful.listField chains, prunedField_encodeNonempty]

end Table

namespace FirewallSpec

/-- What is looked at in the content of a firewall configuration. -/
def excerpt : Excerpt := .record [("table", Table.excerpt)]

/-- The content of a firewall configuration that is read is written as what is looked at. -/
theorem excerpt_faithful : excerpt.Faithful decode encode := by
  have aligned : fields.Aligned := (field_aligned _ _).map _
  refine Excerpt.faithful_record rfl aligned (by decide) fun members spec reads => ?_
  simp only [fields, Record.reads_map] at reads
  obtain ⟨_, table, rfl⟩ := reads
  simp only [List.map_cons, List.map_nil, Table.excerpt_faithful.field table]

end FirewallSpec

end PeerFirewall
