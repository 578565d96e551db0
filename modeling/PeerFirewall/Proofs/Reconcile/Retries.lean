import Mathlib.Data.List.DropRight
import PeerFirewall.Proofs.Reconcile.EventsUnheeded
import PeerFirewall.Proofs.Reconcile.Reachable
import PeerFirewall.Proofs.Watch.History

/-!
# When a failed pass is made again

The passes over a policy that have failed in a row settle when the next one is made, whatever became
of passes over other policies (`Setting.turns_backOff`). No part of a pass touches what is counted
(`Setting.pass_leavesInPlace`); only its end does (`Setting.turn_goes`). The count stops growing
where it fills a word, long after the delay has stopped to grow, so that no number overflows
(`backoffWord_toNat`).
-/
namespace PeerFirewall

/-! ### Delays -/

/-- The delay doubles with each failure up to five minutes. -/
theorem backoff_eq (failures : Nat) : backoff failures = min (5 * 2 ^ (failures - 1)) 300 := by
  by_cases few : failures - 1 ≤ 16
  · rw [backoff, Nat.min_eq_left few]
    rfl
  · -- From here on the delay is at its bound, with the exponent and without.
    have many : 16 ≤ failures - 1 := by omega
    have power : 2 ^ 16 ≤ 2 ^ (failures - 1) := Nat.pow_le_pow_right (by decide) many
    have bound : 300 ≤ 5 * 2 ^ (failures - 1) := by omega
    rw [backoff, Nat.min_eq_right many, Nat.min_eq_right bound]
    decide

/-- More failures never make the delay shorter. -/
theorem backoff_mono {few many : Nat} (fewer : few ≤ many) : backoff few ≤ backoff many := by
  have exponents : few - 1 ≤ many - 1 := Nat.sub_le_sub_right fewer 1
  have powers : 2 ^ (few - 1) ≤ 2 ^ (many - 1) := Nat.pow_le_pow_right (by decide) exponents
  rw [backoff_eq, backoff_eq]
  omega

/-- Where the count stops growing, the delay has stopped to grow. -/
theorem backoff_capped (failures : Nat) :
    backoff (min failures Failures.maxCount) = backoff failures := by
  by_cases few : failures ≤ Failures.maxCount
  · rw [Nat.min_eq_left few]
  · have most : 17 ≤ Failures.maxCount := by decide
    have many : 17 ≤ failures := by omega
    have bound {count : Nat} (enough : 17 ≤ count) : backoff count = 300 := by
      have least := backoff_mono enough
      have atLeast : backoff 17 = 300 := by decide
      rw [atLeast] at least
      have atMost : backoff count ≤ 300 := Nat.min_le_right ..
      omega
    rw [Nat.min_eq_right (by omega), bound most, bound many]

/-- The exponent of the delay as it is computed in a word. -/
def exponentWord (failures : UInt32) : UInt32 := min (if failures = 0 then 0 else failures - 1) 16

/-- The delay as it is computed in words: the count and the power of two have 32 bits, and the
seconds have 64. -/
def backoffWord (failures : UInt32) : UInt64 :=
  min (5 * ((1 : UInt32) <<< exponentWord failures).toUInt64) 300

/-- The lesser of two words stands for the lesser number. -/
theorem toNat_minWord (a b : UInt32) : (min a b).toNat = min a.toNat b.toNat := by
  change (if a ≤ b then a else b).toNat = _
  by_cases le : a ≤ b
  · rw [if_pos le, Nat.min_eq_left (UInt32.le_iff_toNat_le.1 le)]
  · have ge : b.toNat ≤ a.toNat := by
      rw [UInt32.le_iff_toNat_le] at le
      omega
    rw [if_neg le, Nat.min_eq_right ge]

/-- The exponent does not wrap round. -/
theorem exponentWord_toNat (failures : UInt32) :
    (exponentWord failures).toNat = min (failures.toNat - 1) 16 := by
  rw [exponentWord, toNat_minWord]
  by_cases isZero : failures = 0
  · rw [if_pos isZero, isZero]
    rfl
  · have one : (1 : UInt32) ≤ failures := by
      have positive : failures.toNat ≠ 0 := fun same => isZero (UInt32.toNat.inj same)
      rw [UInt32.le_iff_toNat_le]
      change 1 ≤ failures.toNat
      omega
    rw [if_neg isZero, UInt32.toNat_sub_of_le _ _ one]
    rfl

/-- No word overflows where the delay is computed. -/
theorem backoffWord_toNat (failures : UInt32) :
    (backoffWord failures).toNat = backoff failures.toNat := by
  have each (exponent : Fin 17) :
      (min (5 * ((1 : UInt32) <<< UInt32.ofNat exponent).toUInt64) 300).toNat =
        min (5 * 2 ^ exponent.val) 300 := by
    revert exponent
    decide
  have isExponent := exponentWord_toNat failures
  have bounded : (exponentWord failures).toNat < 17 := by omega
  have computed := each ⟨(exponentWord failures).toNat, bounded⟩
  rw [UInt32.ofNat_toNat] at computed
  calc (backoffWord failures).toNat
      = min (5 * 2 ^ (exponentWord failures).toNat) 300 := computed
    _ = backoff failures.toNat := by
      rw [isExponent]
      rfl

/-! ### What the end of a pass counts -/

/-- Whether a pass failed. -/
def Turn.failed (turn : Turn) : Bool := !Setting.succeeded turn.result

/-- How what is counted and when the next pass is made follow from how a pass over an object
ended. -/
inductive Turn.Follows (object : ObjectName) (before after : Failures) : Turn → Prop where
  /-- A success ends the failures in a row. -/
  | success (action : Action) (cleared : after = before.clear object) :
      Follows object before after ⟨.ok action, action⟩
  /-- A failure is counted, and the count settles the delay. -/
  | failure (error : PassError) (recorded : after = before.record object) :
      Follows object before after ⟨.error error, .requeue (backoff (after.count object))⟩

/-- After a failure the count settles the delay. -/
theorem Turn.Follows.next_of_failed {object : ObjectName} {before after : Failures} {turn : Turn}
    (follows : turn.Follows object before after) (failed : turn.failed) :
    turn.next = .requeue (backoff (after.count object)) := by
  cases follows with
  | success action cleared => cases failed
  | failure error recorded => rfl

namespace Setting

variable {setting : Setting} {queued : Policy} {ledger after : Ledger} {object : ObjectName}
  {t : Transcript world}

/-- A pass over an object goes and ends as it is made, and its end is counted for that object and
among all passes. -/
theorem turn_goes {ended : Except NamelessObject Turn}
    (identified : queued.metadata.objectName = .ok object)
    (goes : ((setting.turn queued).run ledger).Goes t (ended, after)) :
    ∃ (turn : Turn) (left : Ledger), ended = .ok turn ∧
      ((setting.pass queued).run ledger).Goes t (turn.result, left) ∧
      after.metrics = left.metrics.reconciled (succeeded turn.result) ∧
      turn.Follows object ledger.failures after.failures := by
  unfold turn at goes
  rw [Program.run_stateT_bind, Program.goes_bind] at goes
  obtain ⟨_, _, ⟨reconciled, middle⟩, rfl, reconciles, settles⟩ := goes
  unfold reconcile at reconciles
  rw [Program.run_stateT_bind, Program.goes_bind] at reconciles
  obtain ⟨_, _, ⟨result, left⟩, rfl, passes, counts⟩ := reconciles
  have keeps : left.failures = ledger.failures :=
    (pass_leavesInPlace.of_goes passes).failures
  cases result with
  | ok action =>
    simp only [identified] at counts
    obtain ⟨rfl, same⟩ := counts
    cases same
    obtain ⟨rfl, same⟩ := settles
    cases same
    rw [List.append_nil, List.append_nil]
    exact ⟨_, left, rfl, passes, rfl, .success action (congrArg (Failures.clear · object) keeps)⟩
  | error error =>
    obtain ⟨rfl, same⟩ := counts
    cases same
    simp only [Ledger.retry, identified] at settles
    obtain ⟨rfl, same⟩ := settles
    cases same
    rw [List.append_nil, List.append_nil]
    exact ⟨_, left, rfl, passes, rfl, .failure error (congrArg (Failures.record · object) keeps)⟩

end Setting

/-! ### Failures in a row -/

/-- Passes that were made, each with the object that it was over, the last one at the end. -/
abbrev PassRecord := List (ObjectName × Turn)

namespace PassRecord

/-- How many passes over an object have failed since the last one that succeeded. -/
def failuresInRow (object : ObjectName) (record : PassRecord) : Nat :=
  ((record.filter (·.1 = object)).rtakeWhile (·.2.failed)).length

variable {object other : ObjectName} {record : PassRecord} {turn : Turn} {ledger : Ledger}

/-- A pass over another object does not count. -/
theorem failuresInRow_of_ne (different : other ≠ object) :
    failuresInRow object (record ++ [(other, turn)]) = failuresInRow object record := by
  have skipped : [(other, turn)].filter (·.1 = object) = [] := by simp [different]
  rw [failuresInRow, List.filter_append, skipped, List.append_nil]
  rfl

/-- A pass over the object counts last. -/
theorem filter_append_self :
    (record ++ [(object, turn)]).filter (·.1 = object) =
      record.filter (·.1 = object) ++ [(object, turn)] := by
  simp

/-- A failure is one more in a row. -/
theorem failuresInRow_of_failed (failed : turn.failed) :
    failuresInRow object (record ++ [(object, turn)]) = failuresInRow object record + 1 := by
  rw [failuresInRow, filter_append_self,
    List.rtakeWhile_concat_pos (fun pass : ObjectName × Turn => pass.2.failed) _ _ failed,
    List.length_append]
  rfl

/-- After a success none is in a row. -/
theorem failuresInRow_of_succeeded (succeeded : ¬ turn.failed) :
    failuresInRow object (record ++ [(object, turn)]) = 0 := by
  rw [failuresInRow, filter_append_self,
    List.rtakeWhile_concat_neg (fun pass : ObjectName × Turn => pass.2.failed) _ _ succeeded]
  rfl

/-- Passes that do not succeed leave no fewer failures in a row. -/
theorem failuresInRow_mono {later : PassRecord}
    (failing : ∀ pass ∈ later, pass.1 = object → pass.2.failed) :
    failuresInRow object record ≤ failuresInRow object (record ++ later) := by
  induction later generalizing record with
  | nil => rw [List.append_nil]
  | cons pass rest ih =>
    obtain ⟨target, turn⟩ := pass
    have ⟨fails, failingLater⟩ := List.forall_mem_cons.1 failing
    have grows : failuresInRow object record ≤
        failuresInRow object (record ++ [(target, turn)]) := by
      by_cases same : target = object
      · obtain rfl := same
        rw [failuresInRow_of_failed (fails rfl)]
        exact Nat.le_succ _
      · rw [failuresInRow_of_ne same]
    rw [List.append_cons]
    exact grows.trans (ih failingLater)

/-- Whether the failures in a row are what is counted, as far as a word can count them. -/
def Counted (record : PassRecord) (failures : Failures) : Prop :=
  ∀ object, failures.count object = min (failuresInRow object record) Failures.maxCount

/-- Where no pass was made, no failures are counted. -/
theorem counted_nil : Counted [] .none := fun _ => rfl

/-- How a pass ends keeps the count. -/
theorem Counted.step {before after : Failures} (counted : Counted record before)
    (follows : turn.Follows object before after) : Counted (record ++ [(object, turn)]) after := by
  intro other
  cases follows with
  | success action cleared =>
    rw [cleared, Failures.count_clear]
    by_cases same : other = object
    · rw [if_pos same, same, failuresInRow_of_succeeded (by simp [Turn.failed, Setting.succeeded])]
      rfl
    · rw [if_neg same, failuresInRow_of_ne (Ne.symm same)]
      exact counted other
  | failure error recorded =>
    rw [recorded, Failures.count_record]
    by_cases same : other = object
    · rw [if_pos same, same, failuresInRow_of_failed rfl, counted object]
      omega
    · rw [if_neg same, failuresInRow_of_ne (Ne.symm same)]
      exact counted other

/-- The failures in a row settle when the next pass is made after one that failed. -/
theorem Counted.delay {before after : Failures} (counted : Counted record before)
    (follows : turn.Follows object before after) (failed : turn.failed) :
    turn.next = .requeue (backoff (failuresInRow object (record ++ [(object, turn)]))) := by
  have countedThen := counted.step follows object
  rw [follows.next_of_failed failed, countedThen, backoff_capped]

/-- Whether every pass over a policy that failed is made again after a delay that its own failures
in a row settle, and what is counted in the end fits into words. -/
structure BacksOff (record : PassRecord) (failures : Failures) : Prop where
  /-- The delay is five seconds after the first failure in a row and doubles with each one up to
  five minutes. -/
  delays : ∀ earlier object turn later, record = earlier ++ (object, turn) :: later →
    turn.failed → ∃ count, 1 ≤ count ∧
      failuresInRow object (earlier ++ [(object, turn)]) = count ∧
      turn.next = .requeue (min (5 * 2 ^ (count - 1)) 300)
  /-- It does not become shorter while no pass over the policy succeeds. -/
  grows : ∀ earlier object turn between again later,
    record = earlier ++ (object, turn) :: (between ++ (object, again) :: later) →
    (∀ pass ∈ between, pass.1 = object → pass.2.failed) → turn.failed → again.failed →
    ∃ delay longer, turn.next = .requeue delay ∧ again.next = .requeue longer ∧ delay ≤ longer
  /-- What is counted is a word, and no word overflows where the delay is computed from it. -/
  counts : ∀ object, ∃ count : UInt32, failures.count object = count.toNat ∧
    count.toNat = min (failuresInRow object record) Failures.maxCount ∧
    (backoffWord count).toNat = backoff (failuresInRow object record)

/-- Whether every pass of a record that failed, where others were made before, is made again after
the delay that the failures in a row settle. -/
def Delayed (earlier record : PassRecord) : Prop :=
  ∀ before object turn later, record = before ++ (object, turn) :: later → turn.failed →
    turn.next =
      .requeue (backoff (failuresInRow object (earlier ++ before ++ [(object, turn)])))

/-- What is counted of a record with such delays fits into words. -/
theorem Delayed.backsOff {failures : Failures} (delayed : Delayed [] record)
    (counted : Counted record failures) : BacksOff record failures where
  delays earlier object turn later split failed := by
    have next := delayed earlier object turn later split failed
    have positive : 1 ≤ failuresInRow object (earlier ++ [(object, turn)]) := by
      rw [failuresInRow_of_failed failed]
      exact Nat.le_add_left ..
    exact ⟨_, positive, rfl, next.trans (congrArg Action.requeue (backoff_eq _))⟩
  grows earlier object turn between again later split failing failed failedAgain := by
    have splitAgain : record =
        (earlier ++ (object, turn) :: between) ++ (object, again) :: later := by
      rw [split, List.append_assoc, List.cons_append]
    have next := delayed _ _ _ _ split failed
    have nextAgain := delayed _ _ _ _ splitAgain failedAgain
    have failingLater : ∀ pass ∈ between ++ [(object, again)], pass.1 = object → pass.2.failed := by
      intro pass member isObject
      rcases List.mem_append.1 member with member | member
      · exact failing pass member isObject
      · rw [List.mem_singleton.1 member]
        exact failedAgain
    have more : failuresInRow object (earlier ++ [(object, turn)]) ≤
        failuresInRow object (earlier ++ [(object, turn)] ++ (between ++ [(object, again)])) :=
      failuresInRow_mono failingLater
    refine ⟨_, _, next, nextAgain, backoff_mono ?_⟩
    simpa using more
  counts object := by
    have bounded : failures.count object < UInt32.size := by
      rw [counted object]
      exact Nat.lt_of_le_of_lt (Nat.min_le_right ..) (by decide)
    have isCount : (UInt32.ofNat (failures.count object)).toNat = failures.count object :=
      UInt32.toNat_ofNat_of_lt' bounded
    refine ⟨UInt32.ofNat (failures.count object), isCount.symm, isCount.trans (counted object), ?_⟩
    rw [backoffWord_toNat, isCount, counted object, backoff_capped]

end PassRecord

namespace Setting

open PassRecord

/-- Passes over policies with names are counted one after the other. -/
theorem turns_count {setting : Setting} {occasions : List Occasion} {ledger after : Ledger}
    {earlier : PassRecord} {t : Transcript world} {ended : List (Except NamelessObject Turn)}
    (named : ∀ occasion ∈ occasions, occasion.policy.metadata.name ≠ none)
    (counted : earlier.Counted ledger.failures)
    (goes : ((setting.turns occasions).run ledger).Goes t (ended, after)) :
    ∃ record : PassRecord,
      occasions.map (·.policy.metadata.objectName) = record.map (fun pass => .ok pass.1) ∧
      ended = record.map (fun pass => .ok pass.2) ∧
      (earlier ++ record).Counted after.failures ∧ Delayed earlier record := by
  induction occasions generalizing ledger earlier t ended with
  | nil =>
    obtain ⟨-, same⟩ := goes
    cases same
    exact ⟨[], rfl, rfl, (List.append_nil earlier).symm ▸ counted, by simp [Delayed]⟩
  | cons occasion rest ih =>
    have ⟨isNamed, namedLater⟩ := List.forall_mem_cons.1 named
    obtain ⟨object, identified⟩ := Metadata.identified isNamed
    obtain ⟨_, _, first, later, _, -, rfl, begins, goesOn⟩ := turns_cons_goes goes
    obtain ⟨turn, _, rfl, -, -, follows⟩ := turn_goes identified begins
    obtain ⟨record, objects, rfl, countedThen, delayed⟩ :=
      ih namedLater (counted.step follows) goesOn
    refine ⟨(object, turn) :: record, ?_, rfl, List.append_cons .. ▸ countedThen, ?_⟩
    · rw [List.map_cons, List.map_cons, identified, objects]
    · intro before target ended after split failed
      cases before with
      | nil =>
        cases split
        rw [List.append_nil]
        exact counted.delay follows failed
      | cons head before =>
        obtain ⟨rfl, splitLater⟩ := List.cons.inj split
        have next := delayed before target ended after splitLater failed
        rwa [← List.append_cons] at next

/-- Whatever passes are made over policies with names, in whatever order and however they are
answered, each that fails is made again after a delay that the failures in a row of its own policy
settle, where none were counted at first. -/
theorem turns_backOff (setting : Setting) (occasions : List Occasion)
    (named : ∀ occasion ∈ occasions, occasion.policy.metadata.name ≠ none) (ledger after : Ledger)
    (fresh : ledger.failures = .none) (t : Transcript world)
    (ended : List (Except NamelessObject Turn))
    (goes : ((setting.turns occasions).run ledger).Goes t (ended, after)) :
    ∃ record : PassRecord,
      occasions.map (·.policy.metadata.objectName) = record.map (fun pass => .ok pass.1) ∧
      ended = record.map (fun pass => .ok pass.2) ∧ record.BacksOff after.failures := by
  obtain ⟨record, objects, ends, counted, delayed⟩ :=
    turns_count named (fresh ▸ counted_nil) goes
  exact ⟨record, objects, ends, delayed.backsOff counted⟩

/-- A world at the beginning of time in which the API server refuses everything. -/
def refusing : (question : world.Question) → Unit → world.Answer question × Unit
  | .send _, _ => (Store.refusal 500 "InternalError", ())
  | .clock, _ => ((⟨0, 0⟩ : Time.Instant), ())
  | .look (.cidr _), _ => (.error ⟨"unknown", []⟩, ())
  | .look (.pods _), _ => (.error ⟨"unknown", []⟩, ())

/-- Occasions for passes over two policies of one name in two namespaces, one of them for another
instance than the one that holds the lease. -/
def neighbouring : List Occasion :=
  let here := marked "rules" "default"
  let there := marked "rules" "elsewhere"
  let holding (policy : Policy) : Occasion := ⟨served.leadership, policy⟩
  [holding here, holding here, holding there, holding here,
    ⟨⟨⟨"other", ⟨1, 0⟩⟩, "host"⟩, here⟩, holding here, holding there]

/-- Two policies of one name fail in two namespaces. The delay of each is settled by its own
failures, and a pass that another instance has to make ends the failures in a row. -/
theorem turns_backOff_neighbours :
    (∀ occasion ∈ neighbouring, occasion.policy.metadata.name ≠ none) ∧
      Ledger.fresh.failures = .none ∧
      ∃ t ended after, ((served.turns neighbouring).run .fresh).Goes t (ended, after) ∧
        ended.map (fun ended => ended.toOption.map (·.next)) = [some (.requeue 5),
          some (.requeue 10), some (.requeue 5), some (.requeue 20), some (.requeue 10),
          some (.requeue 5), some (.requeue 10)] ∧
        ∃ record : PassRecord,
          neighbouring.map (·.policy.metadata.objectName) = record.map (fun pass => .ok pass.1) ∧
          ended = record.map (fun pass => .ok pass.2) ∧ record.BacksOff after.failures := by
  have named : ∀ occasion ∈ neighbouring, occasion.policy.metadata.name ≠ none := by decide
  have delays : (((served.turns neighbouring).run .fresh).run refusing ()).1.1.map
      (fun ended => ended.toOption.map (·.next)) = [some (.requeue 5), some (.requeue 10),
        some (.requeue 5), some (.requeue 20), some (.requeue 10), some (.requeue 5),
        some (.requeue 10)] := by
    decide +kernel
  have goes := Program.goes_run refusing ((served.turns neighbouring).run .fresh) ()
  -- The passes are not run again to see how they are counted.
  generalize (((served.turns neighbouring).run .fresh).run refusing ()).1 = ran at delays goes
  obtain ⟨ended, after⟩ := ran
  exact ⟨named, rfl, _, ended, after, goes, delays,
    turns_backOff served neighbouring named .fresh after rfl _ ended goes⟩

end Setting

end PeerFirewall
