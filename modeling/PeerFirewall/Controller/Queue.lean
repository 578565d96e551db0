import PeerFirewall.Keyed
import PeerFirewall.Resource.Kind

/-!
# The queue of policies to look at

Each policy stands in the queue once at most, with the time at which it is due. Of several times the
earliest counts. Times are milliseconds since the controller started.
-/
namespace PeerFirewall

/-- The policies to look at, each with the time at which it is due. -/
structure Queue where
  times : Keyed ObjectName Nat
deriving DecidableEq, Repr

namespace Queue

/-- Nothing to look at. -/
def empty : Queue := ⟨.empty⟩

/-- When a policy is due, if it is in the queue. -/
def due? (queue : Queue) (object : ObjectName) : Option Nat := queue.times.find? object

/-- How many policies there are to look at. -/
def length (queue : Queue) : Nat := queue.times.keys.length

/-- The queue without a policy. -/
def erase (queue : Queue) (object : ObjectName) : Queue :=
  ⟨queue.times.erase object⟩

/-- Puts a policy into the queue; if it is there, the earlier time counts. -/
def schedule (queue : Queue) (object : ObjectName) (due : Nat) : Queue :=
  match queue.due? object with
  | none => ⟨queue.times.insert object due⟩
  | some earlier => if earlier ≤ due then queue else ⟨queue.times.insert object due⟩

/-- A scheduled policy is due at the earlier of two times; no other policy is affected. -/
theorem due?_schedule (queue : Queue) (object : ObjectName) (due : Nat) (other : ObjectName) :
    (queue.schedule object due).due? other =
      if other = object then some (min due ((queue.due? object).getD due))
      else queue.due? other := by
  unfold schedule
  cases scheduled : queue.due? object with
  | none => simp [due?]
  | some earlier =>
    by_cases sooner : earlier ≤ due
    · by_cases same : other = object
      · subst same
        simp [sooner, scheduled]
      · simp [sooner, same]
    · simp [sooner, due?, Nat.min_eq_left (Nat.le_of_not_le sooner)]

/-- Puts policies into the queue. -/
def scheduleAll (queue : Queue) (objects : List ObjectName) (due : Nat) : Queue :=
  objects.foldl (fun queue object => queue.schedule object due) queue

/-- The entry that is due first, of several the last of the list: a table has what was put in
first at its end. -/
def earliest : List (ObjectName × Nat) → Option (ObjectName × Nat)
  | [] => none
  | entry :: rest =>
    match earliest rest with
    | none => some entry
    | some other => some (if entry.2 < other.2 then entry else other)

/-- The policy that is due first, if it is due before that time. -/
def next? (queue : Queue) (deadline : Nat) : Option (ObjectName × Nat) :=
  (earliest queue.times.entries).filter fun entry => entry.2 < deadline

end Queue

end PeerFirewall
