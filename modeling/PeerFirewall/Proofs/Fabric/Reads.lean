import PeerFirewall.Fabric.Reads
import PeerFirewall.Proofs.Api.Sent

/-!
# Reading the state of the cluster changes nothing

The state of the cluster is read through the API server by requests that read networks, pods and
marks of offloaded namespaces (`ClusterInfo.read_surveys`). So they read only
(`ClusterInfo.read_asks`), and they read neither policies nor firewall configurations
(`ClusterInfo.read_looks`).
-/
namespace PeerFirewall

/-- Whether a question changes nothing. -/
def WorldQuestion.IsRead : WorldQuestion → Prop
  | send request => request.method = .get
  | clock | look _ => True

/-- Whether a question changes nothing and is about neither policies nor firewall configurations. -/
def WorldQuestion.IsLook : WorldQuestion → Prop
  | send request =>
    request.method = .get ∧ request.endpoint.concerns .policy = false ∧
      request.endpoint.concerns .firewall = false
  | clock | look _ => True

/-- Whether an object of that kind tells of the state of the cluster. -/
def Kind.IsSurveyed (kind : Kind) : Prop := kind ∈ [network, pod, namespaceOffloading]

instance (kind : Kind) : Decidable kind.IsSurveyed :=
  inferInstanceAs (Decidable (kind ∈ [Kind.network, Kind.pod, Kind.namespaceOffloading]))

/-- Whether a question only reads objects that tell of the state of the cluster. -/
def WorldQuestion.IsSurvey : WorldQuestion → Prop
  | send request => request.method = .get ∧
      ∃ objects, request.endpoint.objects? = some objects ∧ objects.kind.IsSurveyed
  | clock | look _ => True

/-- A survey is not about objects of a kind that does not tell of the state of the cluster. -/
theorem Request.not_concerns_of_survey {request : Request} {kind : Kind}
    (surveys : WorldQuestion.IsSurvey (.send request)) (other : ¬ kind.IsSurveyed) :
    request.endpoint.concerns kind = false := by
  obtain ⟨_, objects, isAbout, surveyed⟩ := surveys
  have differs : objects.kind ≠ kind := fun same => other (same ▸ surveyed)
  rw [Endpoint.concerns, isAbout]
  exact decide_eq_false differs

/-- A survey is a look. -/
theorem WorldQuestion.IsSurvey.isLook {question : WorldQuestion} (surveys : question.IsSurvey) :
    question.IsLook := by
  cases question with
  | send request =>
    have noPolicy : ¬ Kind.policy.IsSurveyed := by decide
    have noFirewall : ¬ Kind.firewall.IsSurveyed := by decide
    exact ⟨surveys.1, Request.not_concerns_of_survey surveys noPolicy,
      Request.not_concerns_of_survey surveys noFirewall⟩
  | clock | look query => trivial

/-- A look changes nothing. -/
theorem WorldQuestion.IsLook.isRead {question : WorldQuestion} (looks : question.IsLook) :
    question.IsRead := by
  cases question with
  | send request => exact looks.1
  | clock | look query => trivial

/-- A call asks only what is permitted if its request is permitted. -/
theorem ApiCall.asks_send {α : Type} {permitted : WorldQuestion → Prop}
    {read : Reply → Except ApiError α} {request : Request}
    (isPermitted : permitted (.send request)) : (send read request).run.Asks permitted := by
  unfold send
  cases request.uri? with
  | error fault => trivial
  | ok uri => exact ⟨isPermitted, fun _ => trivial⟩

/-- A call for an object by its name asks only what is permitted if the call does. -/
theorem ApiCall.asks_byName {α : Type} {permitted : WorldQuestion → Prop} {name : String}
    {call : ApiCall α} (asks : call.run.Asks permitted) :
    (byName name call).run.Asks permitted := by
  unfold byName
  split
  · trivial
  · exact asks

/-- Reading an object sends the request for it. -/
theorem ApiCall.asks_get? {α : Type} [Resource α] {permitted : WorldQuestion → Prop}
    {space name : String} (permits : permitted (.send (readRequest α space name))) :
    (get? (some space) name : ApiCall (Option α)).run.Asks permitted := by
  unfold get?
  rw [ExceptT.run_mk, map_eq_pure_bind]
  exact (asks_byName (asks_send permits)).bind fun _ => trivial

namespace ClusterRead

/-- A call as a part of a read asks what the call does. -/
theorem asks_calling {α : Type} {permitted : WorldQuestion → Prop} (context : String)
    {call : ApiCall α} (asks : call.run.Asks permitted) :
    (calling context call).run.Asks permitted := by
  unfold calling
  rw [ExceptT.run_mk, map_eq_pure_bind]
  exact asks.bind fun _ => trivial

/-- A result that is there asks nothing. -/
theorem asks_ofExcept {ε α : Type} {permitted : WorldQuestion → Prop} (result : Except ε α) :
    (liftM result : ExceptT ε (Program world) α).run.Asks permitted := by
  cases result <;> trivial

/-- Reading a network sends the request for it. -/
theorem asks_network {permitted : WorldQuestion → Prop} {«namespace» name : String}
    (permits : permitted (.send (ApiCall.readRequest Network «namespace» name))) :
    (network «namespace» name).run.Asks permitted := by
  unfold network
  refine (asks_calling _ (ApiCall.asks_get? permits)).bindOk fun found => ?_
  cases found <;> trivial

/-- Listing pods is a survey. -/
theorem pods_asks («namespace» : Option String) (selector : ApiCall.Selector) :
    (pods «namespace» selector).run.Asks WorldQuestion.IsSurvey :=
  asks_calling _ (ApiCall.asks_send ⟨rfl, _, rfl, show Kind.pod.IsSurveyed by decide⟩)

/-- Listing the marks of offloaded namespaces is a survey. -/
theorem offloadings_asks (selector : ApiCall.Selector) :
    (ApiCall.list none selector : ApiCall (List NamespaceOffloading)).run.Asks
      WorldQuestion.IsSurvey := by
  unfold ApiCall.list ApiCall.exchange
  exact ApiCall.asks_send ⟨rfl, _, rfl, show Kind.namespaceOffloading.IsSurveyed by decide⟩

/-- Listing the pods of namespaces is a survey. -/
theorem podsOfNamespaces_asks (names : List String) :
    (podsOfNamespaces names).run.Asks WorldQuestion.IsSurvey := by
  induction names with
  | nil => trivial
  | cons name rest ih =>
    exact (pods_asks _ _).bindOk fun here => ih.bindOk fun others => trivial

end ClusterRead

namespace ClusterInfo

open ClusterRead

variable (info : ClusterInfo)

/-- Reading an announced network is a survey. -/
theorem readCidr_asks (query : CidrQuery) :
    (info.readCidr query).run.Asks WorldQuestion.IsSurvey := by
  have surveys («namespace» name : String) :
      (network «namespace» name).run.Asks WorldQuestion.IsSurvey :=
    asks_network ⟨rfl, _, rfl, show Kind.network.IsSurveyed by decide⟩
  cases query <;> exact (surveys _ _).bindOk fun _ => asks_ofExcept _

/-- Listing pods for a query is a survey. -/
theorem readPods_asks (query : PodQuery) : (readPods query).run.Asks WorldQuestion.IsSurvey := by
  unfold readPods
  cases query with
  | offloadedFrom clusterId => exact pods_asks _ _
  | shadowsOf clusterId => exact pods_asks _ _
  | inOffloadedNamespaces =>
    exact (asks_calling _ (offloadings_asks .all)).bindOk fun _ => podsOfNamespaces_asks _
  | inNamespace name => exact pods_asks _ _

/-- Answering a query about the cluster is a survey. -/
theorem read_surveys (query : Query) : (info.read query).Asks WorldQuestion.IsSurvey := by
  cases query with
  | cidr query => exact info.readCidr_asks query
  | pods query => exact readPods_asks query

/-- Answering a query about the cluster is a look. -/
theorem read_looks (query : Query) : (info.read query).Asks WorldQuestion.IsLook :=
  (info.read_surveys query).imp fun _ => WorldQuestion.IsSurvey.isLook

/-- Answering a query about the cluster only reads. -/
theorem read_asks (query : Query) : (info.read query).Asks WorldQuestion.IsRead :=
  (info.read_looks query).imp fun _ => WorldQuestion.IsLook.isRead

end ClusterInfo

end PeerFirewall
