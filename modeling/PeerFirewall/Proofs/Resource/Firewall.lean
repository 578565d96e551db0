import PeerFirewall.Proofs.Resource.Metadata
import PeerFirewall.Resource.Firewall

/-!
# Firewall configurations are read back

The content of a firewall configuration is read back from what it is written as, whatever it is
(`FirewallSpec.readsBack`), and so are the fields of the whole configuration if its metadata is
(`Firewall.fields_reads`). An object of any kind is read back where its fields are, for the members
by which it says what it is can be skipped (`Resource.decode_typed`).
-/
namespace PeerFirewall

open Record (field fieldWithDefault optionalField)

namespace Resource

/-! ### Objects of a kind -/

/-- An object of a kind has no members but those by which it says what it is, which can be skipped,
and the fields of a record. -/
theorem typed_pass {kind : Kind} {fields : List (String × Option Json)} {names : List String}
    (known : fields.map (·.1) = names) {member : String × Json}
    (isMember : member ∈ (Json.record (typeMembers kind ++ fields)).members) :
    member.1 ∈ names ∨ Decoder.skipMember member.2 = .ok () := by
  rw [Json.members_record, Json.present, List.filterMap_append] at isMember
  rcases List.mem_append.1 isMember with isType | isField
  · have isText : member = ("apiVersion", .str kind.apiVersion) ∨
        member = ("kind", .str kind.kind) := by
      simpa [typeMembers] using isType
    rcases isText with rfl | rfl <;> exact .inr rfl
  · exact .inl (known ▸ Json.name_mem_of_mem_present isField)

/-- An object of a kind is read back where its fields are. -/
theorem decode_typed {α : Type} {record : Record α} {kind : Kind} {name : String}
    {fields : List (String × Option Json)} {a : α} (known : fields.map (·.1) = record.names)
    (reads : record.Reads .refused (Json.record (typeMembers kind ++ fields)).members a) :
    record.decode name (.record (typeMembers kind ++ fields)) = .ok a :=
  Record.decode_obj_eq_ok.2 ⟨fun _ isMember => typed_pass known isMember, reads⟩

end Resource

/-! ### The content of a firewall configuration -/

/-- A criterion on an address is read back. -/
theorem MatchIp.readsBack (ip : MatchIp) : ReadsBack encode decode ip where
  solid := rfl
  read := by
    refine Record.decode_present rfl ?_
    have value : (field "value" Decoder.string).Reads .refused ip.encode.members ip.value :=
      Record.field_reads (by simp [encode, Json.valuesOf_present]) (readsBack_str _)
    have position :
        (field "position" Choice.decode).Reads .refused ip.encode.members ip.position :=
      Record.field_reads (by simp [encode, Json.valuesOf_present]) (readsBack_choice _)
    exact (value.map MatchIp.mk).seq position

/-- A criterion on the connection state is read back. -/
theorem MatchCtState.readsBack (ctstate : MatchCtState) : ReadsBack encode decode ctstate where
  solid := rfl
  read := by
    refine Record.decode_present rfl ?_
    have value : (field "value" (Decoder.list Choice.decode)).Reads .refused
        ctstate.encode.members ctstate.value :=
      Record.field_reads (by simp [encode, Json.valuesOf_present])
        (readsBack_list fun _ _ => readsBack_choice _)
    exact value.map MatchCtState.mk

/-- A criterion is read back. -/
theorem Match.readsBack (criterion : Match) : ReadsBack encode decode criterion where
  solid := rfl
  read := by
    refine Record.decode_present rfl ?_
    have op : (field "op" Choice.decode).Reads .refused criterion.encode.members criterion.op :=
      Record.field_reads (by simp [encode, Json.valuesOf_present]) (readsBack_choice _)
    have ip : (optionalField "ip" MatchIp.decode).Reads .refused criterion.encode.members
        criterion.ip :=
      Record.optionalField_reads (by simp [encode, Json.valuesOf_present])
        fun _ _ => MatchIp.readsBack _
    have ctstate : (optionalField "ctstate" MatchCtState.decode).Reads .refused
        criterion.encode.members criterion.ctstate :=
      Record.optionalField_reads (by simp [encode, Json.valuesOf_present])
        fun _ _ => MatchCtState.readsBack _
    exact ((op.map Match.mk).seq ip).seq ctstate

/-- A filter rule is read back. -/
theorem FilterRule.readsBack (rule : FilterRule) : ReadsBack encode decode rule where
  solid := rfl
  read := by
    refine Record.decode_present rfl ?_
    have name : (field "name" Decoder.string).Reads .refused rule.encode.members rule.name :=
      Record.field_reads (by simp [encode, Json.valuesOf_present]) (readsBack_str _)
    have action : (field "action" Choice.decode).Reads .refused rule.encode.members rule.action :=
      Record.field_reads (by simp [encode, Json.valuesOf_present]) (readsBack_choice _)
    have criteria : (fieldWithDefault "match" (Decoder.list Match.decode) []).Reads .refused
        rule.encode.members rule.criteria :=
      Record.fieldWithDefault_reads (by simp [encode, Json.valuesOf_present])
        (readsBack_list fun _ _ => Match.readsBack _)
    exact ((name.map FilterRule.mk).seq action).seq criteria

/-- A list that is left out where it is empty is read back. -/
theorem nonempty_reads {α : Type} {encode : α → Json} {decode : Decoder α} {elements : List α}
    {name : String} {repetition : Repetition} {members : List (String × Json)}
    (values : Json.valuesOf name members = (encodeNonempty encode elements).toList)
    (back : ∀ a ∈ elements, ReadsBack encode decode a) :
    (fieldWithDefault name (Decoder.list decode) []).Reads repetition members elements := by
  cases elements with
  | nil => exact Record.fieldOr_of_absent values
  | cons head rest => exact Record.fieldWithDefault_reads values (readsBack_list back)

/-- The rules of a chain are read back. -/
theorem RulesSet.readsBack (rules : RulesSet) : ReadsBack encode decode rules where
  solid := rfl
  read := by
    refine Record.decode_present rfl ?_
    have filterRules : (fieldWithDefault "filterRules" (Decoder.list FilterRule.decode) []).Reads
        .refused rules.encode.members rules.filterRules :=
      nonempty_reads (by simp [encode, Json.valuesOf_present]) fun _ _ => FilterRule.readsBack _
    exact filterRules.map RulesSet.mk

/-- A chain is read back. -/
theorem Chain.readsBack (chain : Chain) : ReadsBack encode decode chain where
  solid := rfl
  read := by
    refine Record.decode_present rfl ?_
    have values : ∀ name, Json.valuesOf name chain.encode.members = _ := fun name =>
      Json.valuesOf_present name _
    have name : (field "name" Decoder.string).Reads .refused chain.encode.members chain.name :=
      Record.field_reads ((values _).trans (by simp)) (readsBack_str _)
    have hook : (field "hook" Choice.decode).Reads .refused chain.encode.members chain.hook :=
      Record.field_reads ((values _).trans (by simp)) (readsBack_choice _)
    have policy : (field "policy" Choice.decode).Reads .refused chain.encode.members
        chain.policy :=
      Record.field_reads ((values _).trans (by simp)) (readsBack_choice _)
    have priority : (field "priority" Decoder.int32).Reads .refused chain.encode.members
        chain.priority :=
      Record.field_reads ((values _).trans (by simp)) (readsBack_int32 _)
    have type : (field "type" Choice.decode).Reads .refused chain.encode.members chain.type :=
      Record.field_reads ((values _).trans (by simp)) (readsBack_choice _)
    have rules : (field "rules" RulesSet.decode).Reads .refused chain.encode.members
        chain.rules :=
      Record.field_reads ((values _).trans (by simp)) (RulesSet.readsBack _)
    exact (((((name.map Chain.mk).seq hook).seq policy).seq priority).seq type).seq rules

/-- A member of a set is read back. -/
theorem SetElement.readsBack (element : SetElement) : ReadsBack encode decode element where
  solid := rfl
  read := by
    refine Record.decode_present rfl ?_
    have key : (field "key" Decoder.string).Reads .refused element.encode.members element.key :=
      Record.field_reads (by simp [encode, Json.valuesOf_present]) (readsBack_str _)
    exact key.map SetElement.mk

/-- An address set is read back. -/
theorem AddressSet.readsBack (set : AddressSet) : ReadsBack encode decode set where
  solid := rfl
  read := by
    refine Record.decode_present rfl ?_
    have name : (field "name" Decoder.string).Reads .refused set.encode.members set.name :=
      Record.field_reads (by simp [encode, Json.valuesOf_present]) (readsBack_str _)
    have keyType : (field "keyType" Choice.decode).Reads .refused set.encode.members
        set.keyType :=
      Record.field_reads (by simp [encode, Json.valuesOf_present]) (readsBack_choice _)
    have elements : (fieldWithDefault "elements" (Decoder.list SetElement.decode) []).Reads
        .refused set.encode.members set.elements :=
      Record.fieldWithDefault_reads (by simp [encode, Json.valuesOf_present])
        (readsBack_list fun _ _ => SetElement.readsBack _)
    exact ((name.map AddressSet.mk).seq keyType).seq elements

/-- A table is read back. -/
theorem Table.readsBack (table : Table) : ReadsBack encode decode table where
  solid := rfl
  read := by
    refine Record.decode_present rfl ?_
    have name : (field "name" Decoder.string).Reads .refused table.encode.members table.name :=
      Record.field_reads (by simp [encode, Json.valuesOf_present]) (readsBack_str _)
    have family : (field "family" Choice.decode).Reads .refused table.encode.members
        table.family :=
      Record.field_reads (by simp [encode, Json.valuesOf_present]) (readsBack_choice _)
    have sets : (fieldWithDefault "sets" (Decoder.list AddressSet.decode) []).Reads .refused
        table.encode.members table.sets :=
      nonempty_reads (by simp [encode, Json.valuesOf_present]) fun _ _ => AddressSet.readsBack _
    have chains : (fieldWithDefault "chains" (Decoder.list Chain.decode) []).Reads .refused
        table.encode.members table.chains :=
      Record.fieldWithDefault_reads (by simp [encode, Json.valuesOf_present])
        (readsBack_list fun _ _ => Chain.readsBack _)
    exact (((name.map Table.mk).seq family).seq sets).seq chains

/-- The content of a firewall configuration is read back. -/
theorem FirewallSpec.readsBack (spec : FirewallSpec) : ReadsBack encode decode spec where
  solid := rfl
  read := by
    refine Record.decode_present rfl ?_
    have table : (field "table" Table.decode).Reads .refused spec.encode.members spec.table :=
      Record.field_reads (by simp [encode, Json.valuesOf_present]) (Table.readsBack _)
    exact table.map FirewallSpec.mk

namespace Firewall

/-! ### Firewall configurations -/

/-- A firewall configuration is read if its metadata and its content are. -/
theorem fields_reads {repetition : Repetition} {members : List (String × Json)}
    {firewall : Firewall} :
    fields.Reads repetition members firewall ↔
      (field "metadata" Metadata.decode).Reads repetition members firewall.metadata ∧
      (field "spec" FirewallSpec.decode).Reads repetition members firewall.spec := by
  simp only [fields, Record.reads_seq, Record.reads_map]
  constructor
  · intro read
    obtain ⟨_, ⟨_, metadata, rfl⟩, _, spec, rfl⟩ := read
    exact ⟨metadata, spec⟩
  · intro each
    obtain ⟨metadata, spec⟩ := each
    exact ⟨_, ⟨_, metadata, rfl⟩, _, spec, rfl⟩

/-- What is read as a firewall configuration has metadata that holds only what can be read. -/
theorem sound_of_decode {value : Json} {firewall : Firewall} (reads : decode value = .ok firewall) :
    firewall.metadata.Sound := by
  have within : fields.Within fun firewall => firewall.metadata.Sound := by
    refine .seq ?_ (Record.Within.trivial _)
    refine .map (Record.field_within fun _ _ => Metadata.sound_of_decode) ?_
    intro metadata sound spec _
    exact sound
  exact within.decode reads

end Firewall

end PeerFirewall
