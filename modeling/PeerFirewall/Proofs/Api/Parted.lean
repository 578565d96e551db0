import PeerFirewall.Proofs.Api.Server
import PeerFirewall.Proofs.Resource.Policy
import PeerFirewall.Resource.Event

/-!
# A server whose collections are served apart

A request is addressed to a collection. At a `PartedServer` its answer depends only on what is
stored in that collection, and it changes nothing that is stored apart from it. What is accepted may
be given a version that depends on everything that was ever written, so two servers that store the
same may answer a write by objects of different versions (`SameService`). A `Server` that shows
every object in the namespace that it is stored in is one (`Server.parted`).
-/
namespace PeerFirewall

/-- Whether two collections have no object in common: they are of different kinds or in different
namespaces. -/
def Collection.Apart (objects other : Collection) : Prop :=
  objects.kind ≠ other.kind ∨
    ∃ space elsewhere, objects.namespace = some space ∧ other.namespace = some elsewhere ∧
      space ≠ elsewhere

/-- Collections that are apart are different. -/
theorem Collection.Apart.ne {objects other : Collection} (apart : objects.Apart other) :
    other ≠ objects := by
  rintro rfl
  rcases apart with different | ⟨space, elsewhere, isSpace, isElsewhere, different⟩
  · exact different rfl
  · exact different (Option.some.inj (isSpace.symm.trans isElsewhere))

/-- What is stored in a collection, by name. -/
abbrev Contents := String → Option Json

/-- Whether two collections store the same but for the versions of the objects. -/
def Contents.SameButVersions (stored other : Contents) : Prop :=
  ∀ name version, (stored name).map (·.stamp version) = (other name).map (·.stamp version)

namespace Contents.SameButVersions

variable {stored other third : Contents}

/-- What is stored is the same as itself. -/
theorem refl (stored : Contents) : stored.SameButVersions stored := fun _ _ => rfl

/-- What is the same is the same but for the versions. -/
theorem of_eq (same : stored = other) : stored.SameButVersions other := same ▸ refl stored

/-- What is the same but for the versions is so both ways. -/
theorem symm (same : stored.SameButVersions other) : other.SameButVersions stored :=
  fun name version => (same name version).symm

/-- What is the same as a third but for the versions is the same but for the versions. -/
theorem trans (same : stored.SameButVersions other) (alike : other.SameButVersions third) :
    stored.SameButVersions third :=
  fun name version => (same name version).trans (alike name version)

end Contents.SameButVersions

/-- Whether a reply to a write holds what was asked for, as far as passes read such replies. -/
structure Reply.Holds (reply : Reply) (kind : Kind) : Prop where
  policy : kind = .policy → ∃ policy, reply.read Policy.decode = .ok policy
  firewall : kind = .firewall → ∃ firewall, reply.read Firewall.decode = .ok firewall
  deletion : kind = .firewall →
    ∃ deletion, reply.readSound (ApiCall.decodeDeletion Firewall.decode) = .ok deletion

/-- Two ways in which a request may be served by servers that store the same, each given by the
reply and what is stored then. -/
inductive SameService (kind : Kind) : Reply × Contents → Reply × Contents → Prop
  | same (served : Reply × Contents) : SameService kind served served
  /-- The request was accepted, and what was stored was given versions. -/
  | accepted {reply replyToo : Reply} {stored storedToo : Contents} (holds : reply.Holds kind)
    (holdsToo : replyToo.Holds kind) (same : stored.SameButVersions storedToo) :
    SameService kind (reply, stored) (replyToo, storedToo)

/-- However it is served, what is stored then is the same but for the versions. -/
theorem SameService.sameButVersions {kind : Kind} {served servedToo : Reply × Contents}
    (same : SameService kind served servedToo) : served.2.SameButVersions servedToo.2 := by
  cases same with
  | same => exact .refl _
  | accepted _ _ same => exact same

/-- A request is served in the same way or accepted. -/
theorem SameService.eq_or_holds {kind : Kind} {served servedToo : Reply × Contents}
    (same : SameService kind served servedToo) :
    served = servedToo ∨ served.1.Holds kind ∧ servedToo.1.Holds kind := by
  cases same with
  | same => exact .inl rfl
  | accepted holds holdsToo _ => exact .inr ⟨holds, holdsToo⟩

/-- A server that serves each collection from what is stored in it. -/
structure PartedServer where
  State : Type
  contents : State → Collection → Contents
  serve : State → Request → Reply × State
  /-- Reading changes nothing. -/
  reading : ∀ (state : State) (request : Request), request.method = .get →
    contents (serve state request).2 = contents state
  /-- What is read depends only on what is stored where the request is addressed to. -/
  read : ∀ (state other : State) (request : Request) (objects : Collection),
    request.method = .get → request.endpoint.objects? = some objects →
      contents state objects = contents other objects →
        (serve state request).1 = (serve other request).1
  /-- What a request comes to depends only on what is stored where it is addressed to, but for the
  versions. -/
  served : ∀ (state other : State) (request : Request) (objects : Collection),
    request.endpoint.objects? = some objects → contents state objects = contents other objects →
      SameService objects.kind
        ((serve state request).1, contents (serve state request).2 objects)
        ((serve other request).1, contents (serve other request).2 objects)
  /-- A request changes nothing that is stored elsewhere. -/
  spared : ∀ (state : State) (request : Request) (objects other : Collection),
    request.endpoint.objects? = some objects → objects.Apart other →
      contents (serve state request).2 other = contents state other
  /-- Policies that are read from different namespaces are different objects. -/
  distinct : ∀ (state other : State) (space elsewhere name nameToo : String)
    (policy policyToo : Policy), space ≠ elsewhere →
      (serve state (ApiCall.readRequest Policy space name)).1.read Policy.decode = .ok policy →
        (serve other (ApiCall.readRequest Policy elsewhere nameToo)).1.read Policy.decode =
            .ok policyToo →
          EventSubject.ofMetadata .policy policy.metadata ≠
            EventSubject.ofMetadata .policy policyToo.metadata

/-- Whether a policy may be read from a namespace that is a certain object. -/
def PartedServer.Holds (server : PartedServer) (space : Option String) (object : EventSubject) :
    Prop :=
  ∃ (state : server.State) (here name : String) (policy : Policy), space = some here ∧
    (server.serve state (ApiCall.readRequest Policy here name)).1.read Policy.decode = .ok policy ∧
      object = .ofMetadata .policy policy.metadata

/-- An object with its namespace set. -/
def Json.inNamespace (object : Json) (space : String) : Json :=
  object.withMember "metadata" (object.metadata.withMember "namespace" (.str space))

/-- The namespace that is set in metadata is read. -/
theorem Metadata.namespace_of_decode {object : Json} {space : String} {metadata : Metadata}
    (reads : decode (object.withMember "namespace" (.str space)) = .ok metadata) :
    metadata.namespace = some space :=
  Record.optionalField_of_withMember
    (fields_reads.1 (Record.decodeBuiltIn_obj_eq_ok.1 reads).2).namespace

/-- The namespace that is set in a policy is read. -/
theorem Policy.namespace_of_decode {object : Json} {space : String} {policy : Policy}
    (reads : decode (object.inNamespace space) = .ok policy) :
    policy.metadata.namespace = some space := by
  have ⟨readsMetadata, _⟩ := fields_reads.1 (Record.decode_obj_eq_ok.1 reads).2
  exact Metadata.namespace_of_decode (Record.fieldOr_of_withMember readsMetadata)

namespace Server

variable {server other : Server} {objects : Collection}

/-- What is stored in a collection. -/
def contents (server : Server) (objects : Collection) : Contents :=
  fun name => server.stored (objects, name)

/-- Shows the object of a name, in the namespace that it is stored in. -/
def shown (server : Server) (objects : Collection) (name : String) : Reply :=
  match server.contents objects name with
  | none => Store.refusal 404 "NotFound"
  | some object =>
    match objects.namespace with
    | none => Store.reply object
    | some space => Store.reply (object.inNamespace space)

/-- Serves a request, where objects are shown in the namespace that they are stored in. -/
def serveShowing (server : Server) (request : Request) : Reply × Server :=
  match request.method, request.endpoint with
  | .get, .object objects name => (server.shown objects name, server)
  | .get, _ => (Store.refusal 405 "MethodNotAllowed", server)
  | _, _ => server.serve request

/-- What is set in one of two collections that store the same may be set in the other. -/
theorem contents_set_congr (same : server.contents objects = other.contents objects) (name : String)
    (object : Option Json) :
    (server.set (objects, name) object).contents objects =
      (other.set (objects, name) object).contents objects := by
  funext asked
  by_cases isNamed : asked = name
  · subst isNamed
    exact (stored_set ..).trans (stored_set ..).symm
  · have different : (objects, asked) ≠ (objects, name) :=
      fun alike => isNamed (congrArg Prod.snd alike)
    exact (stored_set_of_ne _ _ different).trans
      ((congrFun same asked).trans (stored_set_of_ne _ _ different).symm)

/-- What a request for an object comes to depends on what is stored in its collection. -/
theorem serveObject_congr (same : server.contents objects = other.contents objects) (name : String)
    (change : Json → Option (Option Json)) :
    (server.serveObject (objects, name) change).1 = (other.serveObject (objects, name) change).1 ∧
      (server.serveObject (objects, name) change).2.contents objects =
        (other.serveObject (objects, name) change).2.contents objects := by
  have storedSame : server.stored (objects, name) = other.stored (objects, name) :=
    congrFun same name
  unfold serveObject
  rw [storedSame]
  cases other.stored (objects, name) with
  | none => exact ⟨rfl, same⟩
  | some object =>
    simp only
    cases change object with
    | none => exact ⟨rfl, same⟩
    | some later => exact ⟨rfl, contents_set_congr same name later⟩

/-- What a request to store a new object comes to depends on what is stored in its collection. -/
theorem serveCreation_congr (same : server.contents objects = other.contents objects)
    (body : Json) :
    (server.serveCreation objects body).1 = (other.serveCreation objects body).1 ∧
      (server.serveCreation objects body).2.contents objects =
        (other.serveCreation objects body).2.contents objects := by
  unfold serveCreation
  split
  · next name _ =>
    have storedSame : server.stored (objects, name) = other.stored (objects, name) :=
      congrFun same name
    rw [storedSame]
    cases other.stored (objects, name) with
    | none => exact ⟨rfl, contents_set_congr same name body⟩
    | some object => exact ⟨rfl, same⟩
  · exact ⟨rfl, same⟩

/-- What a request comes to depends on what is stored in the collection that it is addressed to. -/
theorem serve_congr {request : Request} (isAbout : request.endpoint.objects? = some objects)
    (same : server.contents objects = other.contents objects) :
    (server.serve request).1 = (other.serve request).1 ∧
      (server.serve request).2.contents objects = (other.serve request).2.contents objects := by
  obtain ⟨method, endpoint, query, body⟩ := request
  cases endpoint with
  | groupResources apiVersion => cases isAbout
  | collection addressed =>
    cases isAbout
    simp only [serve]
    split
    · exact serveCreation_congr same _
    · exact ⟨rfl, same⟩
  | object addressed name | status addressed name =>
    cases isAbout
    exact serveObject_congr same name _

/-- A policy that is shown says the namespace that it is stored in. -/
theorem namespace_of_shown {request : Request} {space name : String} {policy : Policy}
    (isRead : request.method = .get)
    (endpoint : request.endpoint = .object ⟨.policy, some space⟩ name)
    (reads : (server.serveShowing request).1.read Policy.decode = .ok policy) :
    policy.metadata.namespace = some space := by
  unfold serveShowing at reads
  rw [isRead, endpoint] at reads
  simp only [shown] at reads
  cases stored : server.contents ⟨.policy, some space⟩ name with
  | none =>
    rw [stored] at reads
    cases reads
  | some object =>
    rw [stored] at reads
    cases readable : Policy.decode (object.inNamespace space) with
    | error fault =>
      simp only [Store.read_reply_error readable] at reads
      cases reads
    | ok shown =>
      simp only [Store.read_reply readable] at reads
      cases reads
      exact Policy.namespace_of_decode readable

/-- A server that shows every object in its namespace serves each collection apart. -/
def parted : PartedServer where
  State := Server
  contents := contents
  serve := serveShowing
  reading := by
    intro server request isRead
    unfold serveShowing
    rw [isRead]
    cases request.endpoint <;> rfl
  read := by
    intro server other request objects isRead isAbout same
    unfold serveShowing
    rw [isRead]
    cases endpoint : request.endpoint with
    | object addressed name =>
      rw [endpoint] at isAbout
      cases isAbout
      simp only [shown, same]
    | groupResources apiVersion | collection addressed | status addressed name => rfl
  served := by
    intro server other request objects isAbout same
    suffices alike : (server.serveShowing request).1 = (other.serveShowing request).1 ∧
        (server.serveShowing request).2.contents objects =
          (other.serveShowing request).2.contents objects by
      rw [alike.1, alike.2]
      exact .same _
    unfold serveShowing
    split
    · next addressed name _ endpoint =>
      rw [endpoint] at isAbout
      cases isAbout
      exact ⟨by simp only [shown, same], same⟩
    · exact ⟨rfl, same⟩
    · exact serve_congr isAbout same
  spared := by
    intro server request objects other isAbout apart
    funext name
    unfold serveShowing
    split
    · rfl
    · rfl
    · refine stored_serve_of_ne ?_
      rw [isAbout]
      exact fun same => apart.ne (Option.some.inj same).symm
  distinct := by
    intro server other space elsewhere name nameToo policy policyToo different reads readsToo same
    have here := namespace_of_shown rfl rfl reads
    have there := namespace_of_shown rfl rfl readsToo
    have sameSpace : policy.metadata.namespace = policyToo.metadata.namespace :=
      congrArg EventSubject.namespace same
    exact different (Option.some.inj (here.symm.trans (sameSpace.trans there)))

end Server

end PeerFirewall
