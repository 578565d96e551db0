import PeerFirewall.Proofs.Api.Store
import PeerFirewall.Proofs.Reconcile.Overlay
import PeerFirewall.Reconcile.Upsert

/-!
# Writing loses no update of others

A configuration is written by reads and writes between which others may do anything to the stored
one. A `Conversation` is such a course of events. Whatever others do, at most one write is accepted;
what it replaces is what was stored immediately before, with the desired parts laid over it; and the
operation that is reported is the one that was made (`Firewall.upsert_reported`).
-/
namespace PeerFirewall

/-- A request, with what was stored before and after it. -/
structure Exchange where
  request : Request
  before : Option Json
  reply : Reply
  after : Option Json

/-- Whether the request was to change something and was not refused. -/
def Exchange.isAcceptedWrite (exchange : Exchange) : Bool :=
  !exchange.request.isRead && !exchange.reply.isFailure

/-- The course of events around one stored object: what is stored, what others will do before each
of the next requests, and the requests made so far. -/
structure Conversation (versions : Versions) where
  store : Store versions
  others : List (List Store.Interference)
  made : List Exchange

namespace Conversation

variable {versions : Versions}

/-- What is stored when the next request arrives. -/
def arrival (talk : Conversation versions) : Store versions :=
  talk.store.afterAll (talk.others.headD [])

/-- Sends a request. -/
def send (objects : Collection) (name : String) (request : Request)
    (talk : Conversation versions) : Reply × Conversation versions :=
  let (reply, store) := talk.arrival.serve objects name request
  (reply,
    { store := store
      others := talk.others.tail
      made := talk.made ++ [⟨request, talk.arrival.stored, reply, store.stored⟩] })

/-- Sending a request adds it, as it is served, to those made. -/
theorem send_of_serve {objects : Collection} {name : String} {request : Request}
    {talk : Conversation versions} {reply : Reply} {store : Store versions}
    (served : talk.arrival.serve objects name request = (reply, store)) :
    talk.send objects name request =
      (reply,
        { store := store
          others := talk.others.tail
          made := talk.made ++ [⟨request, talk.arrival.stored, reply, store.stored⟩] }) := by
  simp only [send, served]

/-- Answers questions: requests are served, and nothing else is known. -/
def respond (objects : Collection) (name : String) :
    (question : world.Question) → Conversation versions →
      world.Answer question × Conversation versions
  | .send request, talk => talk.send objects name request
  | .clock, talk => ((⟨0, 0⟩ : Time.Instant), talk)
  | .look (.cidr _), talk => (.error ⟨"unknown", []⟩, talk)
  | .look (.pods _), talk => (.error ⟨"unknown", []⟩, talk)

/-- A request is sent unless it has no address. -/
theorem run_exchange {α : Type} (objects : Collection) (name : String) (decode : Decoder α)
    (request : Request) (talk : Conversation versions) :
    (ApiCall.exchange decode request).run.run (respond objects name) talk =
      match request.uri? with
      | .error fault => (.error (.unsent (.badAddress fault)), talk)
      | .ok _ =>
        ((talk.send objects name request).1.read decode, (talk.send objects name request).2) := by
  unfold ApiCall.exchange ApiCall.send
  cases request.uri? <;> rfl

end Conversation

/-! ### What an exchange comes to -/

/-- Whether an exchange read a configuration that has the parts that a policy owns already. -/
structure Exchange.ReadsMatching (exchange : Exchange) (policy : Policy) (spec : FirewallSpec) :
    Prop where
  get : exchange.request.method = .get
  stored : ∃ object current owner,
    exchange.before = some object ∧ Firewall.decode object = .ok current ∧
    Resource.controllerReference? .policy policy.metadata = some owner ∧
    Firewall.LaidOver owner spec current current

/-- Whether an exchange stored the desired configuration where there was none. -/
structure Exchange.Creates (exchange : Exchange) (desired : Firewall) : Prop where
  post : exchange.request.method = .post
  absent : exchange.before = none
  stored : ∃ object version, exchange.after = some object ∧
    Firewall.decode object = .ok (desired.atVersion version)

/-- Whether an exchange laid the parts that a policy owns over the configuration that was stored
immediately before. -/
structure Exchange.Replaces (exchange : Exchange) (policy : Policy) (spec : FirewallSpec) :
    Prop where
  put : exchange.request.method = .put
  stored : ∃ object current later updated owner,
    exchange.before = some object ∧ Firewall.decode object = .ok current ∧
    exchange.after = some later ∧ Firewall.decode later = .ok updated ∧
    Resource.controllerReference? .policy policy.metadata = some owner ∧
    Firewall.LaidOver owner spec current updated

/-- Whether the operation that is reported agrees with the exchanges that were made. -/
structure Reported (policy : Policy) (spec : FirewallSpec) (desired : Firewall)
    (result : Except UpsertError WriteOperation) (made : List Exchange) : Prop where
  /-- At most one write is accepted. -/
  once : made.countP Exchange.isAcceptedWrite ≤ 1
  /-- An accepted write creates the desired configuration or replaces what is stored by it. -/
  writes : ∀ exchange ∈ made, exchange.isAcceptedWrite →
    exchange.Creates desired ∨ exchange.Replaces policy spec
  /-- A change is reported just where a write was accepted. -/
  changed : (∃ operation, result = .ok operation ∧ operation.isChange) ↔
    ∃ exchange ∈ made, exchange.isAcceptedWrite
  /-- A creation is reported just where the last request created the configuration. -/
  created : result = .ok .created ↔
    ∃ last, made.getLast? = some last ∧ last.isAcceptedWrite ∧ last.request.method = .post
  /-- An update is reported just where the last request replaced the configuration. -/
  updated : result = .ok .updated ↔
    ∃ last, made.getLast? = some last ∧ last.isAcceptedWrite ∧ last.request.method = .put
  /-- Nothing to do is reported just where the last request read what is as it should be. -/
  unchanged : result = .ok .unchanged ↔
    ∃ last, made.getLast? = some last ∧ last.ReadsMatching policy spec

namespace Reported

variable {policy : Policy} {spec : FirewallSpec} {desired : Firewall}

/-- The last of exchanges none of which is an accepted write is none. -/
theorem last_of_noWrite {made : List Exchange} {method : Method}
    (noWrite : ∀ exchange ∈ made, exchange.isAcceptedWrite = false) {last : Exchange}
    (isLast : made.getLast? = some last) :
    ¬ (last.isAcceptedWrite ∧ last.request.method = method) := by
  rw [noWrite last (List.mem_of_getLast? isLast)]
  exact fun wrote => nomatch wrote.1

/-- Among exchanges none of which is an accepted write there is none. -/
theorem not_exists_of_noWrite {made : List Exchange}
    (noWrite : ∀ exchange ∈ made, exchange.isAcceptedWrite = false) :
    ¬ ∃ exchange ∈ made, exchange.isAcceptedWrite := by
  rintro ⟨exchange, member, accepted⟩
  cases (noWrite exchange member).symm.trans accepted

/-- An error is reported where no write was accepted and nothing was as it should be. -/
theorem of_failure {made : List Exchange} (error : UpsertError)
    (noWrite : ∀ exchange ∈ made, exchange.isAcceptedWrite = false)
    (noMatch : ∀ last, made.getLast? = some last → ¬ last.ReadsMatching policy spec) :
    Reported policy spec desired (.error error) made := by
  have none := not_exists_of_noWrite noWrite
  have noLast (method : Method) : ¬ ∃ last, made.getLast? = some last ∧
      last.isAcceptedWrite ∧ last.request.method = method :=
    fun ⟨_, isLast, wrote⟩ => last_of_noWrite noWrite isLast wrote
  constructor
  case once =>
    rw [List.countP_eq_zero.2 fun exchange member => by simp [noWrite exchange member]]
    exact Nat.zero_le 1
  case writes => exact fun exchange member accepted => absurd ⟨exchange, member, accepted⟩ none
  case changed => exact ⟨nofun, fun wrote => absurd wrote none⟩
  case created => exact ⟨nofun, fun wrote => absurd wrote (noLast .post)⟩
  case updated => exact ⟨nofun, fun wrote => absurd wrote (noLast .put)⟩
  case unchanged =>
    exact ⟨nofun, fun ⟨last, isLast, isMatch⟩ => absurd isMatch (noMatch last isLast)⟩

/-- An error is reported where there was no exchange. -/
theorem of_none (error : UpsertError) : Reported policy spec desired (.error error) [] := by
  refine of_failure error (List.forall_mem_nil _) ?_
  intro last isLast
  cases isLast

/-- An error is reported where only a read was made and found nothing that is as it should be. -/
theorem of_read {read : Exchange} (error : UpsertError) (isRead : read.isAcceptedWrite = false)
    (noMatch : ¬ read.ReadsMatching policy spec) :
    Reported policy spec desired (.error error) [read] := by
  refine of_failure error (List.forall_mem_singleton.2 isRead) ?_
  intro last isLast
  cases isLast
  exact noMatch

/-- Nothing to do is reported where a read finds what is as it should be. -/
theorem of_match {read : Exchange} (isMatch : read.ReadsMatching policy spec) :
    Reported policy spec desired (.ok .unchanged) [read] := by
  have isRead : read.isAcceptedWrite = false := by
    simp [Exchange.isAcceptedWrite, Request.isRead, isMatch.get]
  constructor
  case once => simp [isRead]
  case writes => simp [isRead]
  case changed => simp [isRead, WriteOperation.isChange]
  case created => simp [isRead]
  case updated => simp [isRead]
  case unchanged => simp [isMatch]

/-- A write that is accepted behind a read is reported. -/
theorem of_write {read write : Exchange} {operation : WriteOperation}
    (isRead : read.isAcceptedWrite = false) (accepted : write.isAcceptedWrite)
    (wrote : operation = .created ∧ write.Creates desired ∨
      operation = .updated ∧ write.Replaces policy spec) :
    Reported policy spec desired (.ok operation) [read, write] := by
  rcases wrote with ⟨rfl, creates⟩ | ⟨rfl, replaces⟩
  · have post := creates.post
    constructor
    case once => simp [isRead, accepted]
    case writes => simp [isRead, creates]
    case changed => simp [accepted, WriteOperation.isChange]
    case created => simp [accepted, post]
    case updated => simp [post]
    case unchanged =>
      have noMatch : ¬ write.ReadsMatching policy spec := by
        intro isMatch
        cases post.symm.trans isMatch.get
      simp [noMatch]
  · have put := replaces.put
    constructor
    case once => simp [isRead, accepted]
    case writes => simp [isRead, replaces]
    case changed => simp [accepted, WriteOperation.isChange]
    case created => simp [put]
    case updated => simp [accepted, put]
    case unchanged =>
      have noMatch : ¬ write.ReadsMatching policy spec := by
        intro isMatch
        cases put.symm.trans isMatch.get
      simp [noMatch]

/-- Whether exchanges came to nothing: no write was accepted, and the last one was no read. -/
structure Late (made : List Exchange) : Prop where
  noWrite : ∀ exchange ∈ made, exchange.isAcceptedWrite = false
  noRead : ∀ last, made.getLast? = some last → last.request.method ≠ .get

/-- A read and a write that is refused come to nothing. -/
theorem Late.pair {read write : Exchange} (isRead : read.isAcceptedWrite = false)
    (refused : write.isAcceptedWrite = false) (isWrite : write.request.method ≠ .get) :
    Late [read, write] where
  noWrite := by simp [isRead, refused]
  noRead := by
    intro last isLast
    cases isLast
    exact isWrite

/-- An error is reported where exchanges came to nothing. -/
theorem Late.failure {made : List Exchange} (late : Late made) (error : UpsertError) :
    Reported policy spec desired (.error error) made :=
  of_failure error late.noWrite fun last isLast isMatch => late.noRead last isLast isMatch.get

/-- The last one of a list has a property that the last one of a part before has not just where the
rest of the list ends with such a one. -/
theorem exists_getLast?_append {first later : List Exchange} {property : Exchange → Prop}
    (notFirst : ∀ last, first.getLast? = some last → ¬ property last) :
    (∃ last, (first ++ later).getLast? = some last ∧ property last) ↔
      ∃ last, later.getLast? = some last ∧ property last := by
  cases later with
  | nil =>
    rw [List.append_nil]
    exact ⟨fun ⟨last, isLast, holds⟩ => absurd holds (notFirst last isLast),
      fun ⟨_, isLast, _⟩ => absurd isLast (Option.some_ne_none _).symm⟩
  | cons head rest => rw [List.getLast?_append, List.getLast?_cons, Option.some_or]

/-- What is reported agrees also with exchanges before that came to nothing. -/
theorem of_late {first later : List Exchange} {result : Except UpsertError WriteOperation}
    (late : Late first) (reported : Reported policy spec desired result later) :
    Reported policy spec desired result (first ++ later) := by
  have none := not_exists_of_noWrite late.noWrite
  constructor
  case once =>
    rw [List.countP_append, List.countP_eq_zero.2 fun exchange member => by
      simp [late.noWrite exchange member], Nat.zero_add]
    exact reported.once
  case writes =>
    intro exchange member accepted
    rcases List.mem_append.1 member with early | member
    · exact absurd ⟨exchange, early, accepted⟩ none
    · exact reported.writes exchange member accepted
  case changed =>
    simp only [reported.changed, List.mem_append, or_and_right, exists_or, none, false_or]
  case created =>
    rw [reported.created, exists_getLast?_append fun _ => last_of_noWrite late.noWrite]
  case updated =>
    rw [reported.updated, exists_getLast?_append fun _ => last_of_noWrite late.noWrite]
  case unchanged =>
    rw [reported.unchanged,
      exists_getLast?_append fun last isLast isMatch => late.noRead last isLast isMatch.get]

end Reported

/-! ### One attempt -/

namespace Firewall

variable {versions : Versions}

/-- The firewall configuration of a peer has a name. -/
theorem firewallName_ne_empty (clusterId : String) : ClusterInfo.firewallName clusterId ≠ "" := by
  intro empty
  simpa [ClusterInfo.firewallName] using congrArg String.length empty

/-- The request that reads a configuration. -/
def readRequest («namespace» name : String) : Request :=
  ⟨.get, .object (ApiCall.objects Firewall (some «namespace»)) name, [], none⟩

/-- The request that creates a configuration. -/
def createRequest («namespace» : String) (desired : Firewall) : Request :=
  ⟨.post, .collection (ApiCall.objects Firewall (some «namespace»)),
    ApiCall.writtenBy controllerName, some desired.encode⟩

/-- The request that replaces a configuration. -/
def replaceRequest («namespace» name : String) (updated : Firewall) : Request :=
  ⟨.put, .object (ApiCall.objects Firewall (some «namespace»)) name,
    ApiCall.writtenBy controllerName, some updated.encode⟩

/-- An attempt reads, then decides by what is read and by how a write ends. -/
theorem run_attempt {«namespace» name : String} (named : name ≠ "") (desired : Firewall)
    (respond : (question : world.Question) → Conversation versions →
      world.Answer question × Conversation versions) (talk : Conversation versions) :
    (attempt «namespace» name desired).run.run respond talk =
      let found := (ApiCall.exchange Firewall.decode (readRequest «namespace» name)).run.run
        respond talk
      match ApiCall.absenceIsNone found.1 with
      | .error error => (.error (.api error), found.2)
      | .ok none =>
        let stored := (ApiCall.exchange Firewall.decode
          (createRequest «namespace» desired)).run.run respond found.2
        (attemptEnd .created stored.1, stored.2)
      | .ok (some current) =>
        match current.merge desired with
        | none => (.ok (some .unchanged), found.2)
        | some updated =>
          let stored := (ApiCall.exchange Firewall.decode
            (replaceRequest «namespace» name updated)).run.run respond found.2
          (attemptEnd .updated stored.1, stored.2) := by
  have read : (ApiCall.get? (some «namespace») name : ApiCall (Option Firewall)).run =
      (ApiCall.exchange Firewall.decode (readRequest «namespace» name)).run.bind
        fun found => .done (ApiCall.absenceIsNone found) := by
    simp only [ApiCall.get?, ApiCall.get, ApiCall.byName, if_neg named]
    rfl
  unfold attempt
  rw [ExceptT.run_mk, read, Program.bind_eq_bind, Program.run_bind, Program.run_bind,
    Program.run_done]
  simp only
  cases ApiCall.absenceIsNone ((ApiCall.exchange Firewall.decode
    (readRequest «namespace» name)).run.run respond talk).1 with
  | error error => rfl
  | ok found =>
    cases found with
    | none =>
      simp only [map_eq_pure_bind, Program.bind_eq_bind, Program.run_bind]
      rfl
    | some current =>
      simp only
      cases current.merge desired with
      | none => rfl
      | some updated =>
        simp only [ApiCall.replace, ApiCall.byName, if_neg named, map_eq_pure_bind,
          Program.bind_eq_bind, Program.run_bind]
        rfl

/-- Whether exchanges are what one attempt made and agree with how it ended. -/
def Attempted (policy : Policy) (spec : FirewallSpec) (desired : Firewall) (made : List Exchange) :
    Except UpsertError (Option WriteOperation) → Prop
  | .ok none => Reported.Late made
  | .ok (some operation) => Reported policy spec desired (.ok operation) made
  | .error error => Reported policy spec desired (.error error) made

section Attempt

variable {policy : Policy} {clusterId : String} {spec : FirewallSpec} {desired : Firewall}

/-- Where what was read has the parts that a policy owns already, there is nothing to write. -/
theorem merge_of_readsMatching (built : policy.desiredFirewall? clusterId spec = some desired)
    {read : Exchange} (isMatch : read.ReadsMatching policy spec) {object : Json}
    (found : read.before = some object) :
    ∃ current, Firewall.decode object = .ok current ∧ current.merge desired = none := by
  obtain ⟨other, current, owner, stored, readable, refers, laid⟩ := isMatch.stored
  cases found.symm.trans stored
  exact ⟨current, readable, (merge_eq_none_iff built refers).2 laid⟩

/-- What is laid over a configuration that was read holds only what can be read. -/
theorem overlay_sound {object : Json} {current : Firewall}
    (readable : Firewall.decode object = .ok current) (desired : Firewall) :
    (current.overlay desired).metadata.Sound := by
  have sound := sound_of_decode readable
  exact ⟨sound.creation, sound.deletion, sound.managed⟩

/-- What is laid over a configuration is laid over it as of any version. -/
theorem LaidOver.atVersion {owner : OwnerReference} {before after : Firewall}
    (laid : LaidOver owner spec before after) (version : String) :
    LaidOver owner spec before (after.atVersion version) where
  spec := laid.spec
  category := laid.category
  subcategory := laid.subcategory
  otherLabels := laid.otherLabels
  owned := laid.owned
  otherOwners := laid.otherOwners
  rest := by
    have rest := laid.rest
    rw [Firewall.atVersion, Metadata.atVersion, rest]

/-- What is desired says the name of the configuration of the peer where it is written. -/
theorem name_encode_desired (built : policy.desiredFirewall? clusterId spec = some desired) :
    desired.encode.metadata.get? "name" =
      some (.str (ClusterInfo.firewallName clusterId)) := by
  rw [name_encode, Policy.name_of_desired built]
  rfl

/-- What is desired says the namespace of the policy where it is written. -/
theorem namespace_encode_desired (built : policy.desiredFirewall? clusterId spec = some desired) :
    desired.encode.metadata.get? "namespace" = policy.metadata.namespace.map .str := by
  rw [namespace_encode, Policy.namespace_of_desired built]

/-- A creation that is sent creates what is desired, or comes too late. -/
theorem send_create (built : policy.desiredFirewall? clusterId spec = some desired)
    («namespace» : String) (talk : Conversation versions) :
    let sent := talk.send (ApiCall.objects Firewall (some «namespace»))
      (ClusterInfo.firewallName clusterId) (createRequest «namespace» desired)
    ∃ write, sent.2.made = talk.made ++ [write] ∧
      ∀ read : Exchange, read.isAcceptedWrite = false → Attempted policy spec desired [read, write]
        (attemptEnd .created (sent.1.read Firewall.decode)) := by
  have served := Store.serve_post (ApiCall.objects Firewall (some «namespace»)) talk.arrival
    (ApiCall.writtenBy controllerName) (name_encode_desired built)
  cases stored : talk.arrival.stored with
  | some object =>
    rw [stored] at served
    rw [createRequest, Conversation.send_of_serve served]
    exact ⟨_, rfl, fun read isRead => .pair isRead rfl nofun⟩
  | none =>
    rw [stored] at served
    rw [createRequest, Conversation.send_of_serve served]
    refine ⟨_, rfl, fun read isRead => ?_⟩
    have readable := decode_stamp (Policy.sound_of_desired built)
      (versions.name talk.arrival.writes)
    have reads : (Store.reply (talk.arrival.next desired.encode)).read Firewall.decode =
        .ok (desired.atVersion (versions.name talk.arrival.writes)) := Store.read_reply readable
    rw [reads]
    exact Reported.of_write isRead rfl (.inl ⟨rfl, rfl, stored, _, _, rfl, readable⟩)

/-- A replacement of what was read replaces just that, or comes too late. -/
theorem send_replace (built : policy.desiredFirewall? clusterId spec = some desired)
    («namespace» : String) (talk : Conversation versions) {object : Json}
    {current updated : Firewall} (found : talk.store.stored = some object)
    (readable : Firewall.decode object = .ok current)
    (merges : current.merge desired = some updated) :
    let sent := talk.send (ApiCall.objects Firewall (some «namespace»))
      (ClusterInfo.firewallName clusterId)
      (replaceRequest «namespace» (ClusterInfo.firewallName clusterId) updated)
    ∃ write, sent.2.made = talk.made ++ [write] ∧
      ∀ read : Exchange, read.isAcceptedWrite = false → Attempted policy spec desired [read, write]
        (attemptEnd .updated (sent.1.read Firewall.decode)) := by
  have served := Store.serve_put (ApiCall.objects Firewall (some «namespace»))
    (ClusterInfo.firewallName clusterId) talk.arrival (ApiCall.writtenBy controllerName)
    updated.encode
  cases stored : talk.arrival.stored with
  | none =>
    rw [stored] at served
    rw [replaceRequest, Conversation.send_of_serve served]
    refine ⟨_, rfl, fun read isRead => ?_⟩
    refine Reported.Late.failure (.pair isRead rfl ?_) _
    nofun
  | some other =>
    rw [stored] at served
    by_cases isCurrent : updated.encode.version? = other.version?
    · simp only [isCurrent, if_true] at served
      rw [replaceRequest, Conversation.send_of_serve served]
      have same : other = object := by
        apply (Store.since_afterAll talk.store _).unchanged found stored
        obtain ⟨place, _, written, rfl⟩ := talk.store.past object found
        rw [← isCurrent, version?_encode, merge_eq_some merges, Json.version?_stamp]
        exact congrArg (Option.map Json.str) (version_of_decode readable)
      subst same
      obtain rfl := merge_eq_some merges
      obtain ⟨owner, refers, laid⟩ := overlay_laidOver built current
      have readsBack := decode_stamp (overlay_sound readable desired)
        (versions.name talk.arrival.writes)
      have reads : (Store.reply (talk.arrival.next (current.overlay desired).encode)).read
          Firewall.decode = .ok _ := Store.read_reply readsBack
      refine ⟨_, rfl, fun read isRead => ?_⟩
      rw [reads]
      exact Reported.of_write isRead rfl (.inr ⟨rfl, rfl, _, _, _, _, owner, stored, readable,
        rfl, readsBack, refers, laid.atVersion _⟩)
    · simp only [if_neg isCurrent] at served
      rw [replaceRequest, Conversation.send_of_serve served]
      exact ⟨_, rfl, fun read isRead => .pair isRead rfl nofun⟩

/-- Whatever others do, an attempt makes exchanges that agree with how it ends. -/
theorem attempt_attempted (built : policy.desiredFirewall? clusterId spec = some desired)
    («namespace» : String) (talk : Conversation versions) :
    let ended := (attempt «namespace» (ClusterInfo.firewallName clusterId) desired).run.run
      (Conversation.respond (ApiCall.objects Firewall (some «namespace»))
        (ClusterInfo.firewallName clusterId)) talk
    ∃ made, ended.2.made = talk.made ++ made ∧ Attempted policy spec desired made ended.1 := by
  have served := Store.serve_get (ApiCall.objects Firewall (some «namespace»))
    (ClusterInfo.firewallName clusterId) talk.arrival [] none
  rw [run_attempt (firewallName_ne_empty clusterId), Conversation.run_exchange]
  cases (readRequest «namespace» (ClusterInfo.firewallName clusterId)).uri? with
  | error fault =>
    refine ⟨[], (List.append_nil _).symm, ?_⟩
    exact Reported.of_none _
  | ok uri =>
    cases found : talk.arrival.stored with
    | none =>
      rw [found] at served
      rw [readRequest, Conversation.send_of_serve served]
      have absent : ApiCall.absenceIsNone ((Store.refusal 404 "NotFound").read Firewall.decode) =
          .ok none := rfl
      simp only [absent, Conversation.run_exchange]
      cases (createRequest «namespace» desired).uri? with
      | error fault =>
        refine ⟨[_], rfl, Reported.of_read _ rfl ?_⟩
        intro isMatch
        obtain ⟨object, _, _, stored, _⟩ := isMatch.stored
        cases found.symm.trans stored
      | ok uri =>
        obtain ⟨write, made, attempted⟩ := send_create built «namespace» _
        exact ⟨_, made.trans (List.append_assoc _ [_] _), attempted _ (by rfl)⟩
    | some object =>
      rw [found] at served
      rw [readRequest, Conversation.send_of_serve served]
      cases readable : Firewall.decode object with
      | error fault =>
        simp only [Store.read_reply_error readable, ApiCall.absenceIsNone]
        refine ⟨[_], rfl, Reported.of_read _ rfl ?_⟩
        intro isMatch
        obtain ⟨current, decoded, _⟩ := merge_of_readsMatching built isMatch found
        cases readable.symm.trans decoded
      | ok current =>
        simp only [Store.read_reply readable, ApiCall.absenceIsNone]
        cases merges : current.merge desired with
        | none =>
          obtain ⟨owner, refers, _⟩ := overlay_laidOver built current
          have laid : LaidOver owner spec current current :=
            (merge_eq_none_iff built refers).1 merges
          exact ⟨[_], rfl, Reported.of_match
            ⟨rfl, object, current, owner, found, readable, refers, laid⟩⟩
        | some updated =>
          simp only [Conversation.run_exchange]
          cases (replaceRequest «namespace» (ClusterInfo.firewallName clusterId) updated).uri? with
          | error fault =>
            refine ⟨[_], rfl, Reported.of_read _ rfl ?_⟩
            intro isMatch
            obtain ⟨other, decoded, unchanged⟩ := merge_of_readsMatching built isMatch found
            cases readable.symm.trans decoded
            cases merges.symm.trans unchanged
          | ok uri =>
            obtain ⟨write, made, attempted⟩ := send_replace built «namespace»
              ⟨talk.arrival, talk.others.tail, _⟩ found readable merges
            exact ⟨_, made.trans (List.append_assoc _ [_] _), attempted _ (by rfl)⟩

/-- Whatever others do, attempts make exchanges that agree with what they come to. -/
theorem upsertWithin_reported (built : policy.desiredFirewall? clusterId spec = some desired)
    («namespace» : String) (attempts : Nat) (talk : Conversation versions) :
    let ended := (upsertWithin «namespace» (ClusterInfo.firewallName clusterId) desired
      attempts).run.run (Conversation.respond (ApiCall.objects Firewall (some «namespace»))
        (ClusterInfo.firewallName clusterId)) talk
    ∃ made, ended.2.made = talk.made ++ made ∧ Reported policy spec desired ended.1 made := by
  induction attempts generalizing talk with
  | zero =>
    exact ⟨[], (List.append_nil _).symm, Reported.of_none _⟩
  | succ attempts ih =>
    obtain ⟨first, madeFirst, attempted⟩ := attempt_attempted built «namespace» talk
    rw [upsertWithin, ExceptT.run_bind, Program.bind_eq_bind, Program.run_bind]
    generalize (attempt «namespace» (ClusterInfo.firewallName clusterId) desired).run.run
      (Conversation.respond (ApiCall.objects Firewall (some «namespace»))
        (ClusterInfo.firewallName clusterId)) talk = ended at *
    obtain ⟨result, after⟩ := ended
    cases result with
    | error error => exact ⟨first, madeFirst, attempted⟩
    | ok operation =>
      cases operation with
      | some operation => exact ⟨first, madeFirst, attempted⟩
      | none =>
        obtain ⟨later, madeLater, reported⟩ := ih after
        refine ⟨first ++ later, ?_, reported.of_late attempted⟩
        rw [← List.append_assoc, ← madeFirst]
        exact madeLater

end Attempt

/-- Whatever others do to the stored configuration before and between its requests, a policy's
desired configuration is written at most once, over what is stored at that time, and what is
reported is what was done. -/
theorem upsert_reported (policy : Policy) (clusterId : String) (spec : FirewallSpec)
    (desired : Firewall) (built : policy.desiredFirewall? clusterId spec = some desired)
    («namespace» : String) (store : Store versions) (others : List (List Store.Interference)) :
    let ended := (desired.upsert «namespace»).run.run
      (Conversation.respond (ApiCall.objects Firewall (some «namespace»))
        (ClusterInfo.firewallName clusterId)) ⟨store, others, []⟩
    Reported policy spec desired ended.1 ended.2.made := by
  have named : desired.metadata.displayName = ClusterInfo.firewallName clusterId := by
    obtain ⟨owner, _, _, rfl⟩ := Policy.desiredFirewall?_eq_some built
    rfl
  obtain ⟨made, all, reported⟩ := upsertWithin_reported built «namespace» maxAttempts
    ⟨store, others, []⟩
  rw [upsert, named]
  intro ended
  have same : ended.2.made = made := all
  rw [same]
  exact reported

/-- A configuration that others have created before it is read is updated. -/
theorem upsert_reported_updated :
    let policy : Policy :=
      ⟨{ Metadata.empty with name := some "rules", uid := some "u1" }, ⟨[]⟩, none⟩
    let spec : FirewallSpec := ⟨⟨"cluster-security", .ipv4, [], []⟩⟩
    let other : Store.Interference := .write (.obj [
      ("metadata", .obj [("labels", .obj [("other", .str "label")])]), ("spec", spec.encode)])
    ∃ desired, policy.desiredFirewall? "c" spec = some desired ∧
      let ended := (desired.upsert "n").run.run
        (Conversation.respond (ApiCall.objects Firewall (some "n"))
          (ClusterInfo.firewallName "c"))
        ⟨(Store.empty : Store .byLength), [[other]], []⟩
      (ended.1.toOption, ended.2.made.length) = (some .updated, 2) ∧
        Reported policy spec desired ended.1 ended.2.made := by
  intro policy spec other
  refine ⟨_, rfl, ?_, upsert_reported policy "c" spec _ rfl _ _ _⟩
  decide +kernel

end Firewall

end PeerFirewall
