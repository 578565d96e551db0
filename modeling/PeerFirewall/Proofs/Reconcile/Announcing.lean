import PeerFirewall.Proofs.Api.Sent
import PeerFirewall.Proofs.Fabric.Reads
import PeerFirewall.Proofs.Reconcile.Stepwise

/-!
# Announcing is about events only

A pass announces what it has done by events. For that it reads the clock and sends a request
(`Setting.asks_announce`), which is about the collection of events of a namespace
(`ClusterEvent.objects?_request`). Which event is sent depends on what is remembered
(`Setting.announcement`); where every event is remembered under its own key, it is about the policy
and says what is to be said (`Setting.key_announcement`), and that stays so
(`Setting.announce_bounded`). The failures that are counted are not touched.
-/
namespace PeerFirewall

open Stepwise (eventKey nextEvent)

/-- Whether a question is one that announcing asks. -/
def WorldQuestion.IsAnnouncing : WorldQuestion → Prop
  | send request => ∃ event : ClusterEvent, request = event.request
  | clock => True
  | look _ => False

/-- The publication of an event is about events. -/
theorem ClusterEvent.objects?_request (event : ClusterEvent) :
    event.request.endpoint.objects? = some event.collection := by
  unfold request
  cases event.series <;> rfl

/-! ### What is remembered -/

/-- The key under which an event belongs. -/
def ClusterEvent.key (event : ClusterEvent) : EventKey :=
  ⟨event.content.type, event.content.action, event.content.reason, event.subject⟩

namespace EventCache

/-- Whether every event is remembered under its own key. -/
def Filed (cache : EventCache) : Prop :=
  ∀ key event, cache.find? key = some event → event.key = key

/-- Where nothing is remembered, nothing is out of its place. -/
theorem filed_empty : Filed .empty := by
  intro key event found
  rw [Keyed.find?_empty] at found
  cases found

/-- An event that is remembered under its own key leaves all in its place. -/
theorem Filed.insert {cache : EventCache} (filed : cache.Filed) (event : ClusterEvent) :
    EventCache.Filed (Keyed.insert cache event.key event) := by
  intro key other found
  rw [Keyed.find?_insert] at found
  split at found
  · cases found
    exact Eq.symm ‹_›
  · exact filed key other found

end EventCache

namespace Setting

variable {setting : Setting} {policy : Policy} {ledger : Ledger}

/-- The event by which something is announced on a policy at a time. -/
def announcement (setting : Setting) (cache : EventCache) (policy : Policy) (content : EventNote)
    (now : Time.Instant) : ClusterEvent :=
  nextEvent setting policy content now (cache.find? (eventKey policy content))

/-- What is announced on a policy is about that policy and of the kind that is to be announced. -/
theorem key_announcement {cache : EventCache} (filed : cache.Filed) (content : EventNote)
    (now : Time.Instant) :
    (setting.announcement cache policy content now).key = eventKey policy content := by
  unfold announcement
  cases found : cache.find? (eventKey policy content) with
  | none => rfl
  | some earlier => exact filed _ earlier found

/-- What is kept once an event was sent: the event, if it was accepted. -/
def announced (ledger : Ledger) (key : EventKey) (event : ClusterEvent) :
    Except ApiError Unit → Ledger
  | .ok () => { ledger with events := ledger.events.insert key event }
  | .error _ => ledger

/-- Announcing something reads the clock and sends one event, which is remembered if it is
accepted. -/
theorem announce_eq (content : EventNote) :
    (setting.announce policy content).run ledger = readClock.bind fun now =>
      let event := setting.announcement ledger.events policy content now
      (ApiCall.exchange ClusterEvent.check event.request).run.bind fun result =>
        .done ((), announced ledger (eventKey policy content) event result) := by
  have keeps (sends : Program world (Except ApiError Unit)) (key : EventKey)
      (event : ClusterEvent) :
      ((sends.bind fun
          | .ok () => Program.done ((), ledger.events.insert key event)
          | .error _ => .done ((), ledger.events)).bind fun remembered =>
        .done ((), { ledger with events := remembered.2 })) =
      sends.bind fun result => .done ((), announced ledger key event result) := by
    rw [Program.bind_assoc]
    congr 1
    funext result
    cases result <;> rfl
  exact congrArg readClock.bind (funext fun now => keeps _ _ _)

/-- How something is announced on a policy: the clock is read, and the event is sent if it makes an
address. -/
inductive Announces (setting : Setting) (cache : EventCache) (policy : Policy)
    (content : EventNote) : Transcript world → Prop where
  | sent (now : Time.Instant) (reply : Reply) :
      Announces setting cache policy content [WorldStep.clock now,
        WorldStep.sent (setting.announcement cache policy content now).request reply]
  | unaddressed (now : Time.Instant) {fault : UriFault}
      (noAddress : (setting.announcement cache policy content now).request.uri? = .error fault) :
      Announces setting cache policy content [WorldStep.clock now]

/-- A part of a pass that announces something. -/
theorem announce_goes {content : EventNote} {after : Ledger} {t : Transcript world}
    (goes : ((setting.announce policy content).run ledger).Goes t ((), after)) :
    setting.Announces ledger.events policy content t := by
  rw [announce_eq] at goes
  obtain ⟨_, _, _, rfl, ⟨now, _, rfl, rfl, rfl⟩, goes⟩ := Program.goes_bind.1 goes
  obtain ⟨_, _, result, rfl, sends, rfl, _⟩ := Program.goes_bind.1 goes
  rw [List.append_nil]
  rcases ApiCall.goes_send sends with ⟨fault, noAddress, rfl, _⟩ | ⟨reply, rfl, _⟩
  · exact .unaddressed now noAddress
  · exact .sent now reply

/-- Whether a part of a pass leaves what is remembered in its place, if it was in it. -/
def StaysFiled {α : Type} (cache : EventCache) (ended : α × Ledger) : Prop :=
  cache.Filed → ended.2.events.Filed

end Setting

/-- Whether one ledger is left of another one with the events in their places, if they were in them,
and the failures as they were counted. -/
structure Ledger.LeavesInPlace (before after : Ledger) : Prop where
  filed : before.events.Filed → after.events.Filed
  failures : after.failures = before.failures

namespace Ledger.LeavesInPlace

/-- A ledger is left as it is. -/
theorem refl (ledger : Ledger) : ledger.LeavesInPlace ledger := ⟨id, rfl⟩

/-- What is left in place by one part and then by another one is left in place by both. -/
theorem trans {before between after : Ledger} (first : before.LeavesInPlace between)
    (second : between.LeavesInPlace after) : before.LeavesInPlace after :=
  ⟨fun filed => second.filed (first.filed filed), second.failures.trans first.failures⟩

end Ledger.LeavesInPlace

namespace Setting

variable {setting : Setting} {policy : Policy} {ledger : Ledger}

/-- Announcing something asks for nothing but that, and leaves what is kept in its place. -/
theorem announce_bounded {permitted : WorldQuestion → Prop} (content : EventNote)
    (permitsClock : permitted .clock)
    (permitsEvent : ∀ now,
      permitted (.send (setting.announcement ledger.events policy content now).request)) :
    ((setting.announce policy content).run ledger).Bounded permitted fun ended =>
      ledger.LeavesInPlace ended.2 := by
  rw [announce_eq]
  refine ⟨permitsClock, fun now => ?_⟩
  have sends : (ApiCall.exchange ClusterEvent.check
      (setting.announcement ledger.events policy content now).request).run.Asks permitted :=
    ApiCall.asks_send (permitsEvent now)
  refine sends.bindBounded fun result => ?_
  cases result with
  | error error => exact .refl ledger
  | ok =>
    refine ⟨fun filed => ?_, rfl⟩
    have kept := filed.insert (setting.announcement ledger.events policy content now)
    rw [key_announcement filed content now] at kept
    exact kept

/-- Announcing something reads the clock and sends an event. -/
theorem asks_announce (content : EventNote) :
    ((setting.announce policy content).run ledger).Asks WorldQuestion.IsAnnouncing :=
  (announce_bounded content trivial fun _ => ⟨_, rfl⟩).asks

end Setting

end PeerFirewall
