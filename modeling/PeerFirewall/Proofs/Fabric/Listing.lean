import PeerFirewall.Fabric.Reads
import PeerFirewall.Proofs.Api.Address
import PeerFirewall.Proofs.Api.Selectors

/-!
# Which pods are listed for a query

A query for the pods of a peer is answered by a list, and its selectors decide which pods the list
holds. The pods offloaded by a peer are those with its identifier as their origin
(`PodQuery.lists_offloadedFrom`), the shadow pods of a peer are those that are marked as such and
scheduled on its node (`PodQuery.lists_shadowsOf`).
-/
namespace PeerFirewall

/-- The value of a field by which a pod can be selected, where the field is kept of pods. A pod
without a value has the empty text. -/
def Pod.field? (pod : Pod) : String → Option String
  | "metadata.name" => some (pod.metadata.name.getD "")
  | "metadata.namespace" => some (pod.metadata.namespace.getD "")
  | "spec.nodeName" => some (pod.nodeName.getD "")
  | "status.podIP" => some (pod.podIp.getD "")
  | _ => none

/-- A pod that is scheduled on a node has it as the value of the field. -/
theorem Pod.field?_nodeName {pod : Pod} {node : String} (named : node ≠ "") :
    pod.field? "spec.nodeName" = some node ↔ pod.nodeName = some node := by
  change some (pod.nodeName.getD "") = some node ↔ _
  cases pod.nodeName with
  | none =>
    rw [Option.getD_none]
    exact ⟨fun empty => absurd (Option.some.inj empty).symm named, nofun⟩
  | some other => rfl

/-- Whether the selectors in an address select a pod. -/
structure Uri.Selects (uri : Uri) (pod : Pod) : Prop where
  labels : ∀ text, uri.parameter? "labelSelector" = some text →
    Selector.Admits text fun term => term.Holds pod.metadata.label?
  fields : ∀ text, uri.parameter? "fieldSelector" = some text →
    Selector.Admits text fun term =>
      pod.field? term.name ≠ none ∧ term.Holds pod.field?

/-- Whether a request is for a list of pods that holds a pod, if it is there. -/
def Request.Lists (request : Request) (pod : Pod) : Prop :=
  request.method = .get ∧ ∃ space uri, request.endpoint = .collection ⟨.pod, space⟩ ∧
    (space = none ∨ space = pod.metadata.namespace) ∧ request.uri? = .ok uri ∧ uri.Selects pod

/-- Whether a list that is read for a query holds a pod, if it is there. -/
def PodQuery.Lists (query : PodQuery) (pod : Pod) : Prop :=
  ∃ t result, (ClusterInfo.readPods query).run.Goes t result ∧
    ∃ e ∈ Transcript.sent t, e.request.Lists pod

/-- The request for a list of pods in all namespaces. -/
def Pod.listRequest (selector : ApiCall.Selector) : Request :=
  ⟨.get, .collection ⟨.pod, none⟩, selector.query, none⟩

namespace ApiCall.Selector

/-- A selector gives its parts as parameters. -/
theorem parameter?_query {selector : Selector} {uri : Uri} (isQuery : uri.query = selector.query) :
    uri.parameter? "labelSelector" = selector.labels ∧
      uri.parameter? "fieldSelector" = selector.fields := by
  rw [Uri.parameter?, Uri.parameter?, isQuery]
  obtain ⟨labels, fields⟩ := selector
  cases labels <;> cases fields <;> exact ⟨rfl, rfl⟩

/-- Whether the parts of a selector are not too long for an address. -/
def IsShort (selector : Selector) : Prop :=
  ∀ text, selector.labels = some text ∨ selector.fields = some text → text.utf8ByteSize ≤ 1000

/-- A short selector leaves room in an address. -/
theorem IsShort.query_le {selector : Selector} (short : selector.IsShort) :
    (Uri.encodeQuery selector.query).utf8ByteSize ≤ 7000 := by
  have fits {name text : String} (named : name.utf8ByteSize = 13)
      (small : text.utf8ByteSize ≤ 1000) :
      (Uri.encodeParameter (name, text)).utf8ByteSize + 1 ≤ 3500 := by
    have size : _ ≤ 3 * (name.utf8ByteSize + text.utf8ByteSize) + 1 :=
      Uri.utf8ByteSize_encodeParameter (name, text)
    omega
  have each : ∀ parameter ∈ selector.query,
      (Uri.encodeParameter parameter).utf8ByteSize + 1 ≤ 3500 := by
    intro parameter isIn
    rcases List.mem_append.1 isIn with isIn | isIn
    · obtain ⟨text, isLabels, rfl⟩ := Option.map_eq_some_iff.1 (Option.mem_toList.1 isIn)
      exact fits rfl (short text (.inl isLabels))
    · obtain ⟨text, isFields, rfl⟩ := Option.map_eq_some_iff.1 (Option.mem_toList.1 isIn)
      exact fits rfl (short text (.inr isFields))
  have few : selector.query.length ≤ 2 := by
    obtain ⟨labels, fields⟩ := selector
    cases labels <;> cases fields <;> simp [query]
  exact Nat.le_trans (Uri.utf8ByteSize_encodeQuery each) (Nat.mul_le_mul_right 3500 few)

end ApiCall.Selector

/-- A list of pods in all namespaces holds the pods that its selectors admit. -/
theorem Pod.lists_listRequest {selector : ApiCall.Selector} {pod : Pod}
    (short : selector.IsShort) :
    (Pod.listRequest selector).Lists pod ↔
      (∀ text, selector.labels = some text →
        Selector.Admits text fun term => term.Holds pod.metadata.label?) ∧
      (∀ text, selector.fields = some text →
        Selector.Admits text fun term =>
          pod.field? term.name ≠ none ∧ term.Holds pod.field?) := by
  have fits : Uri.Fits (Endpoint.collection ⟨.pod, none⟩).path 100 := by decide
  have room : 100 + ((Uri.encodeQuery selector.query).utf8ByteSize + 2) ≤ Uri.longest :=
    Nat.le_trans (Nat.add_le_add_left (Nat.add_le_add_right short.query_le 2) 100) (by decide)
  obtain ⟨uri, isUri⟩ : (Pod.listRequest selector).IsSendable := Request.isSendable fits room
  have isQuery : uri.query = selector.query :=
    Request.query_of_uri? rfl (fun c isIn => Uri.ne_mark_of_inPath (fits.plain c isIn)) isUri
  obtain ⟨isLabels, isFields⟩ := ApiCall.Selector.parameter?_query isQuery
  rw [← isLabels, ← isFields]
  constructor
  · rintro ⟨_, _, other, _, _, isOther, selects⟩
    cases isUri.symm.trans isOther
    exact ⟨selects.labels, selects.fields⟩
  · rintro ⟨labels, fields⟩
    exact ⟨rfl, none, uri, rfl, .inl rfl, isUri, labels, fields⟩

namespace PodQuery

variable {pod : Pod} {clusterId : String}

/-- A query that is answered by a list holds the pods of the list. -/
theorem lists_iff {query : PodQuery} {selector : ApiCall.Selector}
    (isRead : ClusterInfo.readPods query = ClusterRead.pods none selector) :
    query.Lists pod ↔ (Pod.listRequest selector).Lists pod := by
  unfold PodQuery.Lists
  rw [isRead]
  constructor
  · rintro ⟨t, result, goes, e, member, lists⟩
    obtain ⟨_, sends, _⟩ := Program.goes_map.1 goes
    rcases ApiCall.goes_send sends with ⟨_, _, rfl, _⟩ | ⟨reply, rfl, _⟩
    · exact absurd member List.not_mem_nil
    · cases List.mem_singleton.1 member
      exact lists
  · intro lists
    have ⟨_, _, uri, _, _, isUri, _⟩ := lists
    have sends : (ApiCall.list none selector : ApiCall (List Pod)).run.Goes
        [WorldStep.sent (Pod.listRequest selector) ⟨200, .text ""⟩] _ := ApiCall.send_goes isUri _
    exact ⟨_, _, Program.goes_map.2 ⟨_, sends, rfl⟩, _, List.mem_singleton_self _, lists⟩

/-- The pods listed as offloaded by a peer are those with its identifier as their origin. -/
theorem lists_offloadedFrom (label : LabelValue clusterId) :
    (offloadedFrom clusterId).Lists pod ↔
      pod.metadata.label? "liqo.io/origin-cluster-id" = some clusterId := by
  have isName : SelectorTerm.IsName FabricLabel.originClusterId := by decide
  have short : (ApiCall.Selector.byLabels (FabricLabel.podsFrom clusterId)).IsShort := by
    rintro _ (⟨⟨⟩⟩ | ⟨⟨⟩⟩)
    have front : (FabricLabel.originClusterId ++ "=").utf8ByteSize = 26 := rfl
    have := label.utf8ByteSize_le
    rw [FabricLabel.podsFrom, String.utf8ByteSize_append, front]
    omega
  rw [lists_iff rfl, Pod.lists_listRequest short]
  simp only [ApiCall.Selector.byLabels, Option.some.injEq, forall_eq', reduceCtorEq, false_implies,
    implies_true, and_true, FabricLabel.podsFrom,
    Selector.admits_equal isName label.inValue, SelectorTerm.Holds, iff_true]
  rfl

/-- The pods listed as the shadow pods of a peer are those that are marked as such and scheduled on
its node. -/
theorem lists_shadowsOf (label : LabelValue clusterId) :
    (shadowsOf clusterId).Lists pod ↔
      pod.metadata.label? "liqo.io/local-pod" = some "true" ∧ pod.nodeName = some clusterId := by
  have isMark : SelectorTerm.IsName FabricLabel.localPod := by decide
  have isField : SelectorTerm.IsName "spec.nodeName" := by decide
  have isTrue : ∀ c ∈ "true".toList, SelectorTerm.inValue c := List.all_eq_true.1 (by decide)
  have short : (⟨some FabricLabel.shadowPods, some ("spec.nodeName=" ++ clusterId)⟩ :
      ApiCall.Selector).IsShort := by
    rintro _ (⟨⟨⟩⟩ | ⟨⟨⟩⟩)
    · decide
    · have front : "spec.nodeName=".utf8ByteSize = 14 := rfl
      have := label.utf8ByteSize_le
      rw [String.utf8ByteSize_append, front]
      omega
  have marked (met : SelectorTerm → Prop) : Selector.Admits FabricLabel.shadowPods met ↔
      met ⟨FabricLabel.localPod, "true", true⟩ := Selector.admits_equal isMark isTrue met
  have placed (met : SelectorTerm → Prop) : Selector.Admits ("spec.nodeName=" ++ clusterId) met ↔
      met ⟨"spec.nodeName", clusterId, true⟩ := Selector.admits_equal isField label.inValue met
  rw [lists_iff rfl, Pod.lists_listRequest short]
  simp only [Option.some.injEq, forall_eq', marked, placed, SelectorTerm.Holds, iff_true]
  rw [Pod.field?_nodeName label.ne_empty]
  exact and_congr_right fun _ => and_iff_right (Option.some_ne_none _)

end PodQuery

end PeerFirewall
