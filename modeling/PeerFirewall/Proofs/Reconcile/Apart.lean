import PeerFirewall.Proofs.Fabric.Reads
import PeerFirewall.Proofs.Reconcile.Announcing
import PeerFirewall.Proofs.Reconcile.SideBySide

/-!
# What a pass in one namespace leaves alone

A pass over a policy of one namespace writes to the policies and firewall configurations of that
namespace, to events, and to what the controller keeps about objects of that namespace. Everything
else is what the pass of another namespace relies on (`Common.Alike`): no step of the first pass
changes it (`Common.Alike.spared`), and each step of the other pass keeps it alike
(`Common.Alike.read`, `Common.Alike.write` and so on).
-/
namespace PeerFirewall

/-- Whether passes write objects of that kind, events apart. -/
def Kind.IsHandled (kind : Kind) : Prop := kind ∈ [policy, firewall]

instance (kind : Kind) : Decidable kind.IsHandled :=
  inferInstanceAs (Decidable (kind ∈ [Kind.policy, Kind.firewall]))

namespace Collection

/-- Whether passes over the policies of a namespace write to a collection. -/
structure IsOf (objects : Collection) (space : Option String) : Prop where
  handled : objects.kind.IsHandled
  namespaced : objects.namespace.isSome
  «namespace» : objects.namespace = space

/-- Whether passes over the policies of a namespace do not write to a collection. -/
structure IsApartFrom (objects : Collection) (space : Option String) : Prop where
  noEvents : objects.kind ≠ .event
  elsewhere : objects.kind.IsHandled → objects.namespace.isSome ∧ objects.namespace ≠ space

variable {objects other : Collection} {space elsewhere : Option String}

/-- What passes over the policies of a namespace write to is apart from every other collection. -/
theorem IsOf.apart (isOf : objects.IsOf space) (isApart : other.IsApartFrom space) :
    objects.Apart other := by
  by_cases handled : other.kind.IsHandled
  · obtain ⟨namespaced, different⟩ := isApart.elsewhere handled
    obtain ⟨here, isHere⟩ := Option.isSome_iff_exists.1 isOf.namespaced
    obtain ⟨there, isThere⟩ := Option.isSome_iff_exists.1 namespaced
    refine .inr ⟨here, there, isHere, isThere, ?_⟩
    rintro rfl
    exact different (isThere.trans (isHere.symm.trans isOf.namespace))
  · exact .inl fun same => handled (same ▸ isOf.handled)

/-- What passes over the policies of a namespace write to is another collection or apart from it, if
passes over the policies of some other namespace do not write there. -/
theorem IsOf.eq_or_apart (isOf : objects.IsOf space) (isApart : other.IsApartFrom elsewhere) :
    other = objects ∨ objects.Apart other := by
  by_cases sameKind : objects.kind = other.kind
  · obtain ⟨namespaced, _⟩ := isApart.elsewhere (sameKind ▸ isOf.handled)
    obtain ⟨here, isHere⟩ := Option.isSome_iff_exists.1 isOf.namespaced
    obtain ⟨there, isThere⟩ := Option.isSome_iff_exists.1 namespaced
    by_cases same : here = there
    · left
      obtain ⟨kind, home⟩ := objects
      obtain ⟨otherKind, otherHome⟩ := other
      cases sameKind
      have sameHome : some here = some there := congrArg some same
      exact congrArg (Collection.mk kind) (isThere.trans (sameHome.symm.trans isHere.symm))
    · exact .inr (.inr ⟨here, there, isHere, isThere, same⟩)
  · exact .inr (.inl sameKind)

/-- What passes over the policies of a namespace write to, others do not. -/
theorem IsOf.isApartFrom (isOf : objects.IsOf space) (different : space ≠ elsewhere) :
    objects.IsApartFrom elsewhere where
  noEvents same := by
    have handled : Kind.event.IsHandled := same ▸ isOf.handled
    exact absurd handled (by decide)
  elsewhere _ := ⟨isOf.namespaced, isOf.namespace.symm ▸ different⟩

end Collection

/-- Whether a step is one of a pass over a policy of a namespace. -/
def SharedQuestion.IsOf (server : PartedServer) (space : Option String) : SharedQuestion → Prop
  | world (.send request) => ∃ objects, request.endpoint.objects? = some objects ∧
      (objects.IsOf space ∨ objects.kind.IsSurveyed ∧ request.method = .get)
  | world .clock | world (.look _) => True
  | known key | publish key _ => server.Holds space key.subject
  | wrote _ | reconciled _ => True
  | clear object | record object => object.namespace = space

namespace Common

variable {server : PartedServer} {around : Lane → Surroundings} {lane other : Lane}
  {common alone : Common server} {space own : Option String} {written : List Kind}

/-- What is stored in a collection. -/
def contents (common : Common server) (objects : Collection) : Contents :=
  server.contents common.outside.state objects

/-- Whether what a pass relies on is as it is where the pass is alone, if the other pass is over a
policy of a namespace. Of the kinds that the pass itself has written by now, only the versions may
be different; if it has written an event, the events that are remembered may be. -/
structure Alike (space : Option String) (lane : Lane) (written : List Kind)
    (common alone : Common server) : Prop where
  same : ∀ objects : Collection, objects.IsApartFrom space → objects.kind ∉ written →
    common.contents objects = alone.contents objects
  stored : ∀ objects : Collection, objects.IsApartFrom space →
    (common.contents objects).SameButVersions (alone.contents objects)
  events : .event ∉ written → ∀ key : EventKey, ¬ server.Holds space key.subject →
    common.ledger.events.find? key = alone.ledger.events.find? key
  failures : ∀ object : ObjectName, object.namespace ≠ space →
    common.ledger.failures.count object = alone.ledger.failures.count object
  readings : common.outside.readings lane = alone.outside.readings lane

namespace Alike

/-- Everything is alike to itself. -/
theorem refl (space : Option String) (lane : Lane) (written : List Kind) (common : Common server) :
    common.Alike space lane written common where
  same _ _ _ := rfl
  stored _ _ := .refl _
  events _ _ _ := rfl
  failures _ _ := rfl
  readings := rfl

/-- Where more has been written, more may be different. -/
theorem mono {more : List Kind} (alike : common.Alike space lane written alone)
    (fewer : written ⊆ more) : common.Alike space lane more alone where
  same objects isApart unwritten := alike.same objects isApart fun isWritten =>
    unwritten (fewer isWritten)
  stored := alike.stored
  events unwritten := alike.events fun isWritten => unwritten (fewer isWritten)
  failures := alike.failures
  readings := alike.readings

end Alike

/-! ### What a step changes -/

/-- A request of a pass changes nothing where the pass does not write. -/
theorem contents_send {request : Request}
    (isOf : (SharedQuestion.world (.send request)).IsOf server space) {objects : Collection}
    (isApart : objects.IsApartFrom space) :
    (respond around lane (.world (.send request)) common).2.contents objects =
      common.contents objects := by
  obtain ⟨addressed, isAbout, handled | ⟨_, reads⟩⟩ := isOf
  · exact server.spared _ request addressed objects isAbout (handled.apart isApart)
  · exact congrFun (server.reading _ request reads) objects

/-- Publishing an event changes nothing but what is stored of events and what is remembered under
its key. -/
theorem publish_changes (around : Lane → Surroundings) (lane : Lane) (common : Common server)
    (key : EventKey) (event : ClusterEvent) :
    ∃ state events, (respond around lane (.publish key event) common).2 =
        ⟨{ common.outside with state }, { common.ledger with events }⟩ ∧
      (∀ objects : Collection, objects.kind ≠ .event →
        server.contents state objects = common.contents objects) ∧
      ∀ other : EventKey, other ≠ key →
        events.find? other = common.ledger.events.find? other := by
  let sent := (ApiCall.exchange ClusterEvent.check event.request).run.run
    (Outside.respond around lane) common.outside
  have sends : ∃ state, sent.2 = { common.outside with state } ∧
      ∀ objects : Collection, objects.kind ≠ .event →
        server.contents state objects = common.contents objects := by
    simp only [sent, ApiCall.exchange, Outside.run_send]
    cases event.request.uri? with
    | error fault => exact ⟨_, rfl, fun _ _ => rfl⟩
    | ok uri =>
      exact ⟨_, rfl, fun objects noEvents =>
        server.spared _ _ _ objects event.objects?_request (.inl noEvents.symm)⟩
  obtain ⟨state, leaves, spares⟩ := sends
  have answers : (respond around lane (.publish key event) common).2 = ⟨sent.2, _⟩ :=
    congrArg Prod.snd (respond_publish around lane key event common)
  rw [answers, leaves]
  cases sent.1 with
  | error error => exact ⟨state, common.ledger.events, rfl, spares, fun _ _ => rfl⟩
  | ok done =>
    refine ⟨state, common.ledger.events.insert key event, rfl, spares, fun other different => ?_⟩
    rw [Keyed.find?_insert, if_neg different]

namespace Alike

/-- A step of a pass over a policy of one namespace leaves what the other pass relies on as it is.
-/
theorem spared (alike : common.Alike space other written alone) {question : SharedQuestion}
    (isOf : question.IsOf server space) (different : other ≠ lane) :
    (respond around lane question common).2.Alike space other written alone := by
  cases question with
  | world question =>
    cases question with
    | send request =>
      exact
        { same := fun objects isApart unwritten =>
            (contents_send isOf isApart).trans (alike.same objects isApart unwritten)
          stored := fun objects isApart =>
            .trans (.of_eq (contents_send isOf isApart)) (alike.stored objects isApart)
          events := alike.events
          failures := alike.failures
          readings := alike.readings }
    | clock =>
      have readings : (respond around lane (.world .clock) common).2.outside.readings other =
          common.outside.readings other := Function.update_of_ne different ..
      exact { alike with readings := readings.trans alike.readings }
    | look query => exact { alike with }
  | publish key event =>
    obtain ⟨state, events, leaves, spares, kept⟩ := publish_changes around lane common key event
    rw [leaves]
    exact
      { same := fun objects isApart unwritten =>
          (spares objects isApart.noEvents).trans (alike.same objects isApart unwritten)
        stored := fun objects isApart =>
          .trans (.of_eq (spares objects isApart.noEvents)) (alike.stored objects isApart)
        events := fun unwritten known elsewhere => by
          have otherKey : known ≠ key := fun same => elsewhere (same ▸ isOf)
          exact (kept known otherKey).trans (alike.events unwritten known elsewhere)
        failures := alike.failures
        readings := alike.readings }
  | known key | wrote operation | reconciled ok => exact { alike with }
  | clear object =>
    have failures (known : ObjectName) (elsewhere : known.namespace ≠ space) :
        (common.ledger.failures.clear object).count known =
          alone.ledger.failures.count known := by
      have otherObject : known ≠ object := fun same => elsewhere (same ▸ isOf)
      rw [Failures.count_clear, if_neg otherObject, alike.failures known elsewhere]
    exact { alike with failures }
  | record object =>
    have failures (known : ObjectName) (elsewhere : known.namespace ≠ space) :
        (common.ledger.failures.record object).count known =
          alone.ledger.failures.count known := by
      have otherObject : known ≠ object := fun same => elsewhere (same ▸ isOf)
      rw [Failures.count_record, if_neg otherObject, alike.failures known elsewhere]
    exact { alike with failures }

/-! ### What a pass relies on is kept alike by its own steps -/

/-- What is read is read alike. -/
theorem read (alike : common.Alike space lane written alone) {request : Request}
    (reads : request.method = .get) {objects : Collection}
    (isAbout : request.endpoint.objects? = some objects) (isApart : objects.IsApartFrom space)
    (unwritten : objects.kind ∉ written) :
    (respond around lane (.world (.send request)) common).1 =
        (respond around lane (.world (.send request)) alone).1 ∧
      (respond around lane (.world (.send request)) common).2.Alike space lane written
        (respond around lane (.world (.send request)) alone).2 := by
  have keeps (common : Common server) (objects : Collection) :
      (respond around lane (.world (.send request)) common).2.contents objects =
        common.contents objects := congrFun (server.reading _ request reads) objects
  refine ⟨server.read _ _ request objects reads isAbout (alike.same objects isApart unwritten), ?_⟩
  exact
    { same := fun others isApart unwritten =>
        (keeps common others).trans
          ((alike.same others isApart unwritten).trans (keeps alone others).symm)
      stored := fun others isApart =>
        .trans (.of_eq (keeps common others))
          ((alike.stored others isApart).trans (.of_eq (keeps alone others).symm))
      events := alike.events
      failures := alike.failures
      readings := alike.readings }

/-- What is written is answered alike, or it is accepted and may differ in its version from then
on. -/
theorem write (alike : common.Alike space lane written alone) {request : Request}
    {objects : Collection} (isAbout : request.endpoint.objects? = some objects)
    (isOf : objects.IsOf own) (different : own ≠ space) (unwritten : objects.kind ∉ written) :
    let after := respond around lane (.world (.send request)) common
    let afterAlone := respond around lane (.world (.send request)) alone
    (after.1 = afterAlone.1 ∧ after.2.Alike space lane written afterAlone.2) ∨
      (Reply.Holds after.1 objects.kind ∧ Reply.Holds afterAlone.1 objects.kind ∧
        after.2.Alike space lane (objects.kind :: written) afterAlone.2) := by
  intro after afterAlone
  have keeps (common : Common server) {others : Collection} (apart : objects.Apart others) :
      (respond around lane (.world (.send request)) common).2.contents others =
        common.contents others := server.spared _ request objects others isAbout apart
  have service : SameService objects.kind (after.1, after.2.contents objects)
      (afterAlone.1, afterAlone.2.contents objects) :=
    server.served _ _ request objects isAbout
      (alike.same objects (isOf.isApartFrom different) unwritten)
  have stored (others : Collection) (isApart : others.IsApartFrom space) :
      (after.2.contents others).SameButVersions (afterAlone.2.contents others) := by
    rcases isOf.eq_or_apart isApart with rfl | apart
    · exact service.sameButVersions
    · exact .trans (.of_eq (keeps common apart))
        ((alike.stored others isApart).trans (.of_eq (keeps alone apart).symm))
  have elsewhere {others : Collection} (isApart : others.IsApartFrom space)
      (apart : objects.Apart others) (notYet : others.kind ∉ written) :
      after.2.contents others = afterAlone.2.contents others :=
    (keeps common apart).trans ((alike.same others isApart notYet).trans (keeps alone apart).symm)
  rcases service.eq_or_holds with sameService | ⟨holds, holdsToo⟩
  · have ⟨sameReply, sameContents⟩ := Prod.mk.inj sameService
    refine .inl ⟨sameReply, ?_⟩
    exact
      { same := fun others isApart notYet => by
          rcases isOf.eq_or_apart isApart with rfl | apart
          · exact sameContents
          · exact elsewhere isApart apart notYet
        stored
        events := alike.events
        failures := alike.failures
        readings := alike.readings }
  · refine .inr ⟨holds, holdsToo, ?_⟩
    exact
      { same := fun others isApart notYet => by
          rcases isOf.eq_or_apart isApart with rfl | apart
          · exact absurd (List.mem_cons_self ..) notYet
          · exact elsewhere isApart apart fun isWritten => notYet (List.mem_cons_of_mem _ isWritten)
        stored
        events := fun notYet => alike.events fun isWritten =>
          notYet (List.mem_cons_of_mem _ isWritten)
        failures := alike.failures
        readings := alike.readings }

/-- The clock is read alike. -/
theorem tick (alike : common.Alike space lane written alone) :
    (respond around lane (.world .clock) common).1 =
        (respond around lane (.world .clock) alone).1 ∧
      (respond around lane (.world .clock) common).2.Alike space lane written
        (respond around lane (.world .clock) alone).2 := by
  refine ⟨congrArg (around lane).clock alike.readings, ?_⟩
  have ticks (common : Common server) :
      (respond around lane (.world .clock) common).2.outside.readings lane =
        common.outside.readings lane + 1 := Function.update_self ..
  have readings := (ticks common).trans ((congrArg (· + 1) alike.readings).trans (ticks alone).symm)
  exact { alike with readings }

/-- What is remembered of an own event is recalled alike before an event is published. -/
theorem known (alike : common.Alike space lane written alone) {key : EventKey}
    (elsewhere : ¬ server.Holds space key.subject) (unwritten : .event ∉ written) :
    (respond around lane (.known key) common).1 = (respond around lane (.known key) alone).1 :=
  alike.events unwritten key elsewhere

/-- What a pass relies on stays alike where it publishes an event, but for the events. -/
theorem publish (alike : common.Alike space lane written alone) (key : EventKey)
    (event : ClusterEvent) :
    (respond around lane (.publish key event) common).2.Alike space lane (.event :: written)
      (respond around lane (.publish key event) alone).2 := by
  obtain ⟨state, events, leaves, spares, _⟩ := publish_changes around lane common key event
  obtain ⟨stateAlone, eventsAlone, leavesAlone, sparesAlone, _⟩ :=
    publish_changes around lane alone key event
  rw [leaves, leavesAlone]
  exact
    { same := fun objects isApart unwritten =>
        (spares objects isApart.noEvents).trans
          ((alike.same objects isApart fun isWritten =>
            unwritten (List.mem_cons_of_mem _ isWritten)).trans
              (sparesAlone objects isApart.noEvents).symm)
      stored := fun objects isApart =>
        .trans (.of_eq (spares objects isApart.noEvents))
          ((alike.stored objects isApart).trans
            (.of_eq (sparesAlone objects isApart.noEvents).symm))
      events := fun unwritten => absurd (List.mem_cons_self ..) unwritten
      failures := alike.failures
      readings := alike.readings }

/-- Failures are forgotten alike. -/
theorem clear (alike : common.Alike space lane written alone) (object : ObjectName) :
    (respond around lane (.clear object) common).2.Alike space lane written
      (respond around lane (.clear object) alone).2 := by
  have failures (known : ObjectName) (elsewhere : known.namespace ≠ space) :
      (common.ledger.failures.clear object).count known =
        (alone.ledger.failures.clear object).count known := by
    rw [Failures.count_clear, Failures.count_clear, alike.failures known elsewhere]
  exact { alike with failures }

/-- Failures are counted alike. -/
theorem record (alike : common.Alike space lane written alone) {object : ObjectName}
    (elsewhere : object.namespace ≠ space) :
    (respond around lane (.record object) common).1 =
        (respond around lane (.record object) alone).1 ∧
      (respond around lane (.record object) common).2.Alike space lane written
        (respond around lane (.record object) alone).2 := by
  have failures (known : ObjectName) (elsewhereToo : known.namespace ≠ space) :
      (common.ledger.failures.record object).count known =
        (alone.ledger.failures.record object).count known := by
    rw [Failures.count_record, Failures.count_record, alike.failures known elsewhereToo,
      alike.failures object elsewhere]
  exact ⟨failures object elsewhere, { alike with failures }⟩

end Alike

end Common

end PeerFirewall
