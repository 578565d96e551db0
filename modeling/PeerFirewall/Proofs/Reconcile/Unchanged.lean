import PeerFirewall.Proofs.Api.Body
import PeerFirewall.Proofs.Reconcile.InForce
import PeerFirewall.Proofs.Resource.FirewallExcerpt

/-!
# What a configuration holds that is left unchanged

Writing the desired configuration leaves the stored one unchanged only if the last reading found
one that is as it should be. What was found then has the desired content, as far as the content is
looked at (`Firewall.upsert_unchanged`). What somebody else has added to it under names that are
not looked at is neither noticed nor taken away (`Firewall.upsert_unchanged_foreign`).
-/
namespace PeerFirewall

namespace Firewall

/-- The content in a value that stands for a firewall configuration. -/
def content? (value : Json) : Option Json :=
  (Json.obj (Record.membersIn fields.names value)).get? "spec"

/-- What is decoded as a firewall configuration has a content, from which its own is decoded. -/
theorem content_of_decode {value : Json} {firewall : Firewall}
    (decoded : decode value = .ok firewall) :
    ∃ content, content? value = some content ∧ FirewallSpec.decode content = .ok firewall.spec := by
  have aligned : fields.Aligned := ((Record.field_aligned _ _).map _).seq (Record.field_aligned _ _)
  have reads := Record.reads_of_decode aligned (by decide) decoded
  rcases Record.fieldOr_of_reads (fields_reads.1 reads).2 with found | ⟨_, absent⟩
  · exact found
  · cases absent

/-- A configuration that is as it should be has the desired content. -/
theorem spec_of_merge {current desired : Firewall} (matching : current.merge desired = none) :
    current.spec = desired.spec := by
  simp only [merge, ite_eq_left_iff, reduceCtorEq, imp_false, not_not] at matching
  rw [← matching, overlay]

variable {space name : String} {desired : Firewall} {t : Transcript world}

/-- Whether a configuration of that name was read that is as it should be. -/
def FoundUnchanged (space name : String) (desired : Firewall) (e : Sent) : Prop :=
  e.request = ApiCall.readRequest Firewall space name ∧
    ∃ current, e.reply.read decode = .ok current ∧ current.merge desired = none

/-- An attempt that leaves the configuration unchanged has found it as it should be. -/
theorem attempt_unchanged
    (goes : (attempt space name desired).run.Goes t (.ok (some .unchanged))) :
    ∃ e, Transcript.sent t = [e] ∧ FoundUnchanged space name desired e := by
  generalize isEnd : Except.ok (some WriteOperation.unchanged) = ended at goes
  cases goes_attempt_iff.1 goes with
  | unread reads => cases isEnd
  | settled reads merges =>
    rcases ApiCall.goes_get? reads with ⟨_, fault, failed⟩ | ⟨reply, rfl, found⟩
    · cases failed
    · exact ⟨⟨_, reply⟩, rfl, rfl, _, ApiCall.eq_of_absenceIsNone found.symm, merges⟩
  | created reads creates ends => cases (attemptEnd_eq_some_iff.1 (ends.trans isEnd.symm)).1
  | replaced reads merges replaces ends =>
    cases (attemptEnd_eq_some_iff.1 (ends.trans isEnd.symm)).1

/-- Attempts that leave the configuration unchanged have found it as it should be in the end. -/
theorem upsertWithin_unchanged {attempts : Nat}
    (goes : (upsertWithin space name desired attempts).run.Goes t (.ok .unchanged)) :
    ∃ e, (Transcript.sent t).getLast? = some e ∧ FoundUnchanged space name desired e := by
  induction attempts generalizing t with
  | zero => cases goes.2
  | succ attempts ih =>
    rcases goes_upsertWithin_succ.1 goes with tries | ⟨first, later, rfl, tries, goes⟩
    · obtain ⟨e, only, found⟩ := attempt_unchanged tries
      exact ⟨e, by rw [only]; rfl, found⟩
    · obtain ⟨e, isLast, found⟩ := ih goes
      exact ⟨e, by rw [Transcript.sent_append, List.getLast?_append, isLast, Option.some_or], found⟩

/-- The stored configuration is left unchanged only if the last request was the reading of it, the
body of whose reply holds, as far as it is looked at, the desired content. -/
theorem upsert_unchanged (space : String) (desired : Firewall) (t : Transcript world)
    (goes : (desired.upsert space).run.Goes t (.ok .unchanged)) :
    ∃ e stored, (Transcript.sent t).getLast? = some e ∧
      e.request = ApiCall.readRequest Firewall space desired.metadata.displayName ∧
      e.reply.isFailure = false ∧ content? e.reply.content.value = some stored ∧
      (FirewallSpec.excerpt stored).IsLike desired.spec.encode := by
  obtain ⟨e, isLast, asked, current, reads, matching⟩ := upsertWithin_unchanged goes
  obtain ⟨accepted, decoded⟩ := Reply.decode_of_read reads
  obtain ⟨stored, found, decodedSpec⟩ := content_of_decode decoded
  refine ⟨e, stored, isLast, asked, accepted, found, ?_⟩
  have same := FirewallSpec.excerpt_faithful.same stored current.spec decodedSpec
  rw [spec_of_merge matching] at same
  exact congrArg Json.sorted same

/-- A reading that finds the configuration as it should be leaves it unchanged. -/
theorem upsert_goes_unchanged {space : String} {desired current : Firewall} {uri : Uri}
    {reply : Reply} (named : desired.metadata.displayName ≠ "")
    (address : (ApiCall.readRequest Firewall space desired.metadata.displayName).uri? = .ok uri)
    (reads : reply.read decode = .ok current) (matching : current.merge desired = none) :
    (desired.upsert space).run.Goes
      [WorldStep.sent (ApiCall.readRequest Firewall space desired.metadata.displayName) reply]
      (.ok .unchanged) := by
  have fetches := ApiCall.get?_goes (α := Firewall) named address reply
  rw [show (reply.read Resource.decode : Except ApiError Firewall) = .ok current from reads]
    at fetches
  rw [show ApiCall.absenceIsNone (.ok current) = .ok (some current) from rfl] at fetches
  exact goes_upsertWithin_succ.2 (.inl (goes_attempt_iff.2 (.settled fetches matching)))

/-- A configuration that lets new connections from one network pass. -/
def guarded : Firewall where
  metadata := { Metadata.empty with
    name := some "c-security-fabric"
    labels := some FabricLabel.firewallLabels
    ownerReferences := some [] }
  spec := ⟨{
    name := "cluster-security"
    family := .ipv4
    sets := [⟨"peers", .ipv4Addr, [⟨"10.0.0.0/16"⟩]⟩]
    chains := [⟨"security", .prerouting, .drop, 200, .filter,
      ⟨[⟨"fresh", .accept, [.onIp "@peers" .src, .onCtState [.new]]⟩]⟩⟩] }⟩

/-- What is stored of that configuration when somebody else has narrowed its rule to a protocol,
given the chain a list of rules that translate addresses, and spelled some parts in other ways. -/
def drifted : Json :=
  .obj [
    ("metadata", guarded.metadata.encode),
    ("spec", .obj [("table", .obj [
      ("name", .str "cluster-security"),
      ("family", .obj [("IPV4", .null)]),
      ("sets", .arr [.obj [
        ("name", .str "peers"),
        ("keyType", .str "ipv4_addr"),
        ("elements", .arr [.arr [.str "10.0.0.0/16"]])]]),
      ("chains", .arr [.obj [
        ("name", .str "security"),
        ("hook", .str "prerouting"),
        ("policy", .str "drop"),
        ("priority", .int 200),
        ("type", .str "filter"),
        ("rules", .obj [
          ("natRules", .arr [.obj [("name", .str "masquerade")]]),
          ("filterRules", .arr [.obj [
            ("name", .str "fresh"),
            ("action", .str "accept"),
            ("match", .arr [
              .obj [
                ("op", .str "eq"),
                ("ip", .obj [("value", .str "@peers"), ("position", .str "src")]),
                ("proto", .obj [("value", .str "tcp")])],
              .obj [
                ("op", .str "eq"),
                ("ip", .null),
                ("ctstate", .obj [("value", .arr [.str "new"])])]])]])])]])])])]

/-- What is stored is read as the desired configuration. -/
theorem read_drifted : (Store.reply drifted).read decode = .ok guarded := by
  decide +kernel

/-- The desired configuration is as it should be. -/
theorem merge_guarded : guarded.merge guarded = none := by
  decide +kernel

/-- The stored configuration is left unchanged. -/
theorem goes_drifted :
    (guarded.upsert "liqo-tenant-c").run.Goes
      [WorldStep.sent (ApiCall.readRequest Firewall "liqo-tenant-c" "c-security-fabric")
        (Store.reply drifted)] (.ok .unchanged) := by
  have address : (ApiCall.readRequest Firewall "liqo-tenant-c" "c-security-fabric").uri? =
      .ok ⟨"/apis/networking.liqo.io/v1beta1/namespaces/liqo-tenant-c/firewallconfigurations/" ++
        "c-security-fabric", []⟩ := by
    decide +kernel
  apply upsert_goes_unchanged
  case named => decide
  case address => exact address
  case reads => exact read_drifted
  case matching => exact merge_guarded

/-- What somebody else has added under names that are not looked at does not count. -/
theorem upsert_unchanged_drifted :
    ∃ stored, content? drifted = some stored ∧
      (FirewallSpec.excerpt stored).IsLike guarded.spec.encode := by
  obtain ⟨e, stored, isLast, _, _, found, like⟩ :=
    upsert_unchanged "liqo-tenant-c" guarded _ goes_drifted
  cases isLast
  exact ⟨stored, found, like⟩

/-- It is not so that the stored content is the desired one where the configuration is left
unchanged: somebody else may have added to it. -/
theorem upsert_unchanged_foreign :
    ¬ ∀ (space : String) (desired : Firewall) (t : Transcript world),
      (desired.upsert space).run.Goes t (.ok .unchanged) →
      ∃ e stored, (Transcript.sent t).getLast? = some e ∧
        content? e.reply.content.value = some stored ∧ stored.IsLike desired.spec.encode := by
  intro always
  obtain ⟨e, stored, isLast, found, like⟩ := always "liqo-tenant-c" guarded _ goes_drifted
  cases isLast
  obtain ⟨other, found', differs⟩ : ∃ other, content? drifted = some other ∧
      ¬ other.IsLike guarded.spec.encode := ⟨_, rfl, by decide +kernel⟩
  cases found.symm.trans found'
  exact differs like

end Firewall

end PeerFirewall
