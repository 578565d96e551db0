import PeerFirewall.Watch.Known

/-!
# What is known after a history of events

The table of known policies is built event by event. Which policy of an identity is known can also
be told by looking back from the newest event: the newest event about it decides, but behind the end
of a list only what was listed counts (`PolicyEvent.known?`). Both agree after every history of
events over named policies (`KnownPolicies.steps_follow`).
-/
namespace PeerFirewall

/-- Whether metadata is that of an object of that name in that namespace, if it is in one. -/
def Metadata.IsOf (metadata : Metadata) (key : ObjectName) : Prop :=
  metadata.namespace = key.namespace ∧ metadata.name = some key.name

instance (metadata : Metadata) (key : ObjectName) : Decidable (metadata.IsOf key) :=
  inferInstanceAs (Decidable (_ ∧ _))

/-- Metadata with a name is that of one object. -/
theorem Metadata.isOf_iff {metadata : Metadata} {object : ObjectName}
    (identified : metadata.objectName = .ok object) (key : ObjectName) :
    metadata.IsOf key ↔ key = object := by
  unfold objectName at identified
  split at identified
  · rename_i name named
    cases identified
    rw [IsOf, named]
    constructor
    · rintro ⟨home, isName⟩
      cases isName
      rw [home]
    · rintro rfl
      exact ⟨rfl, rfl⟩
  · cases identified

/-- Metadata with a name identifies its object. -/
theorem Metadata.identified {metadata : Metadata} (named : metadata.name ≠ none) :
    ∃ object, metadata.objectName = .ok object := by
  obtain ⟨name, isName⟩ := Option.ne_none_iff_exists'.1 named
  exact ⟨⟨metadata.namespace, name⟩, by rw [objectName, isName]⟩

namespace PolicyEvent

/-- The policy that an event is about. -/
def policy? : PolicyEvent → Option Policy
  | applied policy | deleted policy | listed policy => some policy
  | listBegins | listEnds => none

/-- Whether the policy that an event is about has a name. -/
def Named (event : PolicyEvent) : Prop :=
  ∀ policy, event.policy? = some policy → policy.metadata.name ≠ none

instance (event : PolicyEvent) : Decidable event.Named :=
  inferInstanceAs (Decidable (∀ policy ∈ event.policy?, policy.metadata.name ≠ none))

/-- The policy of an identity in the list that is arriving, given all events, the newest first. -/
def arriving? (key : ObjectName) : List PolicyEvent → Option Policy
  | [] | listBegins :: _ | listEnds :: _ => none
  | listed policy :: earlier =>
    if policy.metadata.IsOf key then some policy else arriving? key earlier
  | applied _ :: earlier | deleted _ :: earlier => arriving? key earlier

/-- The known policy of an identity, given all events, the newest first. -/
def known? (key : ObjectName) : List PolicyEvent → Option Policy
  | [] => none
  | applied policy :: earlier =>
    if policy.metadata.IsOf key then some policy else known? key earlier
  | deleted policy :: earlier =>
    if policy.metadata.IsOf key then none else known? key earlier
  | listEnds :: earlier => arriving? key earlier
  | listBegins :: earlier | listed _ :: earlier => known? key earlier

variable {key : ObjectName} {policy : Policy} {past : List PolicyEvent}

/-- What arrives under an identity has that identity. -/
theorem identity_of_arriving (arrives : arriving? key past = some policy) :
    policy.metadata.IsOf key := by
  induction past with
  | nil => cases arrives
  | cons event earlier ih =>
    cases event with
    | listBegins | listEnds => cases arrives
    | applied | deleted => exact ih arrives
    | listed other =>
      rw [arriving?] at arrives
      split at arrives
      · cases arrives
        assumption
      · exact ih arrives

/-- What is known under an identity has that identity. -/
theorem identity_of_known (isKnown : known? key past = some policy) :
    policy.metadata.IsOf key := by
  induction past with
  | nil => cases isKnown
  | cons event earlier ih =>
    cases event with
    | listBegins | listed => exact ih isKnown
    | listEnds => exact identity_of_arriving isKnown
    | applied other =>
      rw [known?] at isKnown
      split at isKnown
      · cases isKnown
        assumption
      · exact ih isKnown
    | deleted other =>
      rw [known?] at isKnown
      split at isKnown
      · cases isKnown
      · exact ih isKnown

end PolicyEvent

namespace KnownPolicies

open PolicyEvent (known? arriving?)

/-- Whether what is known, and what is arriving, is what all events say, the newest first. -/
structure Follows (policies : KnownPolicies) (past : List PolicyEvent) : Prop where
  known : ∀ key, policies.known.find? key = known? key past
  arriving : ∀ key, policies.arriving.find? key = arriving? key past

/-- Without any event nothing is known. -/
theorem none_follows : KnownPolicies.none.Follows [] where
  known _ := rfl
  arriving _ := rfl

/-- One more event over a named policy is followed. -/
theorem step_follows {policies : KnownPolicies} {past : List PolicyEvent} {event : PolicyEvent}
    (follows : policies.Follows past) (named : event.Named) :
    ∃ after, policies.step event = .ok after ∧ after.Follows (event :: past) := by
  cases event with
  | listBegins => exact ⟨_, rfl, follows.known, fun _ => rfl⟩
  | listEnds => exact ⟨_, rfl, follows.arriving, fun _ => rfl⟩
  | applied policy =>
    obtain ⟨object, isObject⟩ := Metadata.identified (named policy rfl)
    refine ⟨_, congrArg (· >>= _) isObject, fun key => ?_, follows.arriving⟩
    simp only [Keyed.find?_insert, follows.known, known?, Metadata.isOf_iff isObject]
  | deleted policy =>
    obtain ⟨object, isObject⟩ := Metadata.identified (named policy rfl)
    refine ⟨_, congrArg (· >>= _) isObject, fun key => ?_, follows.arriving⟩
    simp only [Keyed.find?_erase, follows.known, known?, Metadata.isOf_iff isObject]
  | listed policy =>
    obtain ⟨object, isObject⟩ := Metadata.identified (named policy rfl)
    refine ⟨_, congrArg (· >>= _) isObject, follows.known, fun key => ?_⟩
    simp only [Keyed.find?_insert, follows.arriving, arriving?, Metadata.isOf_iff isObject]

/-- A history of events over named policies is followed. -/
theorem steps_follow {policies : KnownPolicies} {past : List PolicyEvent}
    (follows : policies.Follows past) (history : List PolicyEvent)
    (named : ∀ event ∈ history, event.Named) :
    ∃ after, policies.steps history = .ok after ∧ after.Follows (history.reverse ++ past) := by
  induction history generalizing policies past with
  | nil => exact ⟨policies, rfl, follows⟩
  | cons event rest ih =>
    obtain ⟨namedFirst, namedRest⟩ := List.forall_mem_cons.1 named
    obtain ⟨after, steps, followsThen⟩ := step_follows follows namedFirst
    obtain ⟨last, stepsOn, followsLast⟩ := ih followsThen namedRest
    refine ⟨last, ?_, ?_⟩
    · rw [KnownPolicies.steps, steps]
      exact stepsOn
    · rw [List.reverse_cons, List.append_assoc]
      exact followsLast

end KnownPolicies

end PeerFirewall
