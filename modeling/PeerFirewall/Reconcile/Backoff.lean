import PeerFirewall.Keyed
import PeerFirewall.Resource.Kind

/-!
# Failures in a row

A policy whose pass failed is tried again after a delay that doubles with each failure in a row, up
to a bound. The failures of each policy are counted apart and forgotten when a pass succeeds.
-/
namespace PeerFirewall

/-- The delay after that many failures in a row, in seconds. -/
def backoff (failures : Nat) : Nat := min (5 * Nat.pow 2 (min (failures - 1) 16)) 300

/-- The failures in a row of each object that has any. -/
structure Failures where
  counts : Keyed ObjectName Nat
deriving DecidableEq, Repr

namespace Failures

/-- No failures. -/
def none : Failures := ⟨.empty⟩

/-- How many failures in a row an object has. -/
def count (failures : Failures) (object : ObjectName) : Nat :=
  (failures.counts.find? object).getD 0

/-- The largest count; more failures do not change it. -/
def maxCount : Nat := 4294967295

/-- Counts one more failure of an object. -/
def record (failures : Failures) (object : ObjectName) : Failures :=
  ⟨failures.counts.insert object (min (failures.count object + 1) maxCount)⟩

/-- Recording a failure changes the count of that object only. -/
@[simp] theorem count_record (failures : Failures) (object other : ObjectName) :
    (failures.record object).count other =
      if other = object then min (failures.count object + 1) maxCount
      else failures.count other := by
  simp only [count, record, Keyed.find?_insert]
  split <;> rfl

/-- Forgets the failures of an object. -/
def clear (failures : Failures) (object : ObjectName) : Failures :=
  ⟨failures.counts.erase object⟩

/-- Clearing changes the count of that object only. -/
@[simp] theorem count_clear (failures : Failures) (object other : ObjectName) :
    (failures.clear object).count other =
      if other = object then 0 else failures.count other := by
  simp only [count, clear, Keyed.find?_erase]
  split <;> rfl

end Failures

end PeerFirewall
