import Mathlib.Logic.Function.Basic
import PeerFirewall.Api.Client
import PeerFirewall.Proofs.Api.Patch
import PeerFirewall.Proofs.Api.Document
import PeerFirewall.Proofs.Api.Store

/-!
# The policies and firewall configurations of a namespace

A `Cluster` is what the API server holds of one namespace. A policy whose deletion was asked for
stays until its finalizers are empty (`Store.settle`), a firewall configuration that is deleted is
gone at once. `Cluster.serve` answers requests; requests about anything else change nothing here.
-/
namespace PeerFirewall

/-- Whether the deletion of an object was asked for. -/
def Json.isDeleted (object : Json) : Bool := object.deletion?.getD .null ≠ .null

namespace Store

variable {versions : Versions}

/-- Stores an object, unless it is to be deleted and no finalizer keeps it. -/
def settle (store : Store versions) (object : Json) : Store versions :=
  if object.isDeleted ∧ object.finalizers = [] then store.remove else store.put object

/-- What is stored is the object. -/
theorem stored_settle {store : Store versions} {object later : Json}
    (stored : (store.settle object).stored = some later) : later = store.next object := by
  unfold settle at stored
  split at stored
  · cases stored
  · exact (Option.some.inj stored).symm

/-- An object with finalizers is stored. -/
theorem settle_of_mem {store : Store versions} {object finalizer : Json}
    (member : finalizer ∈ object.finalizers) : store.settle object = store.put object := by
  rw [settle, if_neg]
  intro removed
  obtain ⟨_, none⟩ := removed
  rw [none] at member
  cases member

end Store

/-- What the API server holds of one namespace. -/
structure Cluster (versions : Versions) where
  /-- The policies by name. -/
  policies : String → Store versions
  /-- The firewall configurations by name. -/
  firewalls : String → Store versions
  /-- The identities that policies have been given. -/
  issued : List String

namespace Cluster

variable {versions : Versions}

/-- Changes what is stored as a policy. -/
def setPolicy (cluster : Cluster versions) (name : String) (store : Store versions) :
    Cluster versions :=
  { cluster with policies := Function.update cluster.policies name store }

/-- Changes what is stored as a firewall configuration. -/
def setFirewall (cluster : Cluster versions) (name : String) (store : Store versions) :
    Cluster versions :=
  { cluster with firewalls := Function.update cluster.firewalls name store }

section Stores

variable {cluster : Cluster versions} {name other : String} {store : Store versions}

/-- A policy that is changed is what it is changed to. -/
@[simp] theorem policies_setPolicy : (cluster.setPolicy name store).policies name = store :=
  Function.update_self ..

/-- A change of a policy leaves the others. -/
theorem policies_setPolicy_of_ne (isOther : other ≠ name) :
    (cluster.setPolicy name store).policies other = cluster.policies other :=
  Function.update_of_ne isOther ..

/-- A firewall configuration that is changed is what it is changed to. -/
@[simp] theorem firewalls_setFirewall :
    (cluster.setFirewall name store).firewalls name = store :=
  Function.update_self ..

/-- A change of a firewall configuration leaves the others. -/
theorem firewalls_setFirewall_of_ne (isOther : other ≠ name) :
    (cluster.setFirewall name store).firewalls other = cluster.firewalls other :=
  Function.update_of_ne isOther ..

end Stores

/-! ### Requests -/

/-- Serves a request for a policy. -/
def servePolicy (cluster : Cluster versions) (name : String) (method : Method)
    (body : Option Json) : Reply × Cluster versions :=
  match (cluster.policies name).stored, method, body with
  | some object, .get, _ => (Store.reply object, cluster)
  | some object, .patch .json, some patch =>
    match object.patched? patch with
    | some changed =>
      (Store.reply ((cluster.policies name).next changed),
        cluster.setPolicy name ((cluster.policies name).settle changed))
    | none => (Store.refusal 422 "Invalid", cluster)
  | some _, _, _ => (Store.refusal 405 "MethodNotAllowed", cluster)
  | none, _, _ => (Store.refusal 404 "NotFound", cluster)

/-- Serves a request for the status of a policy. Nothing here depends on what it becomes. -/
def serveStatus (cluster : Cluster versions) (name : String) (method : Method) (status : Json) :
    Reply × Cluster versions :=
  match (cluster.policies name).stored, method with
  | some object, .patch .merge =>
    let changed := object.withMember "status" status
    (Store.reply ((cluster.policies name).next changed),
      cluster.setPolicy name ((cluster.policies name).settle changed))
  | some _, _ => (Store.refusal 405 "MethodNotAllowed", cluster)
  | none, _ => (Store.refusal 404 "NotFound", cluster)

/-- Serves a request to store a new firewall configuration. -/
def serveCreation (cluster : Cluster versions) (body : Option Json) : Reply × Cluster versions :=
  match body.bind Json.name? with
  | some (.str name) =>
    let (reply, store) := (cluster.firewalls name).serveObjects name .post body
    (reply, cluster.setFirewall name store)
  | _ => (Store.refusal 422 "Invalid", cluster)

/-- The policies of a namespace. -/
def policiesOf (space : String) : Collection := ApiCall.objects Policy (some space)

/-- The firewall configurations of a namespace. -/
def firewallsOf (space : String) : Collection := ApiCall.objects Firewall (some space)

/-- Serves a request where this is what the API server holds of a namespace. What is not about its
policies and firewall configurations has some reply, and a write of a status leaves some status. -/
def serve (space : String) (cluster : Cluster versions) (request : Request) (elsewhere : Reply)
    (status : Json) : Reply × Cluster versions :=
  match request.endpoint with
  | .object objects name =>
    if objects = firewallsOf space then
      let (reply, store) := (cluster.firewalls name).serveObject request.method request.body
      (reply, cluster.setFirewall name store)
    else if objects = policiesOf space then cluster.servePolicy name request.method request.body
    else (elsewhere, cluster)
  | .collection objects =>
    if objects = firewallsOf space ∧ request.method = .post then cluster.serveCreation request.body
    else (elsewhere, cluster)
  | .status objects name =>
    if objects = policiesOf space then cluster.serveStatus name request.method status
    else (elsewhere, cluster)
  | .groupResources _ => (elsewhere, cluster)

/-! ### What requests come to -/

variable (cluster : Cluster versions) (space name : String) (method : Method)
  (query : List (String × String)) (body : Option Json) (elsewhere : Reply) (status : Json)

/-- Policies are no firewall configurations. -/
theorem policiesOf_ne_firewallsOf : policiesOf space ≠ firewallsOf space := by
  intro same
  have sameKind : Kind.policy = Kind.firewall := congrArg Collection.kind same
  exact absurd sameKind (by decide)

/-- A request for a firewall configuration is served from what is stored under its name. -/
theorem serve_firewall :
    cluster.serve space ⟨method, .object (firewallsOf space) name, query, body⟩ elsewhere status =
      (((cluster.firewalls name).serveObject method body).1,
        cluster.setFirewall name ((cluster.firewalls name).serveObject method body).2) := by
  simp only [serve, if_true]

/-- A request to store a firewall configuration is one to create it. -/
theorem serve_creation :
    cluster.serve space ⟨.post, .collection (firewallsOf space), query, body⟩ elsewhere status =
      cluster.serveCreation body := by
  simp only [serve, and_self, if_true]

/-- A request for a policy is served from what is stored under its name. -/
theorem serve_policy :
    cluster.serve space ⟨method, .object (policiesOf space) name, query, body⟩ elsewhere status =
      cluster.servePolicy name method body := by
  simp only [serve, policiesOf_ne_firewallsOf, if_false, if_true]

/-- A policy is read as it is stored. -/
theorem serve_policy_get :
    (cluster.serve space ⟨.get, .object (policiesOf space) name, query, body⟩ elsewhere status).1 =
      ((cluster.policies name).serveObject .get body).1 := by
  rw [serve_policy]
  unfold servePolicy Store.serveObject
  cases (cluster.policies name).stored <;> rfl

/-- A firewall configuration is read as it is stored. -/
theorem serve_firewall_get :
    (cluster.serve space ⟨.get, .object (firewallsOf space) name, query, body⟩ elsewhere status).1 =
      ((cluster.firewalls name).serveObject .get body).1 := by
  rw [serve_firewall]

/-- A request for the status of a policy is served from what is stored under its name. -/
theorem serve_status :
    cluster.serve space ⟨method, .status (policiesOf space) name, query, body⟩ elsewhere status =
      cluster.serveStatus name method status := by
  simp only [serve, if_true]

/-- A request that reads changes nothing. -/
theorem serve_read {request : Request} (isRead : request.method = .get) :
    (cluster.serve space request elsewhere status).2 = cluster := by
  obtain ⟨method, endpoint, query, body⟩ := request
  cases isRead
  cases endpoint with
  | groupResources apiVersion => rfl
  | collection objects =>
    have noCreation : ¬ (objects = firewallsOf space ∧ Method.get = .post) := nofun
    simp only [serve, if_neg noCreation]
  | object objects name =>
    simp only [serve]
    split
    · unfold Store.serveObject setFirewall
      cases (cluster.firewalls name).stored <;> simp
    · split
      · unfold servePolicy
        cases (cluster.policies name).stored <;> rfl
      · rfl
  | status objects name =>
    simp only [serve]
    split
    · unfold serveStatus
      cases (cluster.policies name).stored <;> rfl
    · rfl

end Cluster

end PeerFirewall
