import Mathlib.Data.List.Induction
import PeerFirewall.Proofs.Readiness

/-!
# What a status tells of the passes before

After any number of passes, the status of a policy that did not tell of passes before has one ready
condition behind the conditions of other types. It tells of the last pass, but for its transition
time, which is that of the pass with which the policy last came to be in force, or not to be
(`PolicyStatus.afterPasses_tellsHistory`). The reason and the message may change meanwhile.
-/
namespace PeerFirewall

open Time (Instant)

namespace Outcome

/-- The status of the ready condition says whether the policy is in force. -/
theorem conditionStatus_eq (outcome : Outcome) :
    outcome.conditionStatus = if outcome.reason = .fabricSynced then .true else .false := by
  simp only [Outcome.conditionStatus, Outcome.isReady, decide_eq_true_eq]

/-- The status of the ready condition is the same after two passes just where both left the policy
in force, or both did not. -/
theorem conditionStatus_eq_iff {outcome other : Outcome} :
    outcome.conditionStatus = other.conditionStatus ↔ outcome.isReady = other.isReady := by
  unfold Outcome.conditionStatus
  cases outcome.isReady <;> cases other.isReady <;> simp

end Outcome

/-- How a pass over a policy ended: which generation it was about, how it ended, and when. -/
structure PassEnd where
  generation : Option Int64
  outcome : Outcome
  time : Instant
deriving DecidableEq

/-- Whether a pass was the first one of the longest stretch of passes, up to the last one, that all
left the policy in force, or all did not. -/
def PassEnd.BeginsLastStretch (first last : PassEnd) (passes : List PassEnd) : Prop :=
  ∃ before stretch, passes = before ++ first :: stretch ∧
    (∀ pass ∈ first :: stretch, pass.outcome.isReady = last.outcome.isReady) ∧
    ∀ pass, before.getLast? = some pass → pass.outcome.isReady ≠ last.outcome.isReady

namespace PassEnd.BeginsLastStretch

variable {first last pass : PassEnd} {passes : List PassEnd}

/-- A stretch goes on with a pass that leaves the policy as the last one did. -/
theorem goesOn (begins : first.BeginsLastStretch last passes)
    (alike : last.outcome.isReady = pass.outcome.isReady) :
    first.BeginsLastStretch pass (passes ++ [pass]) := by
  obtain ⟨before, stretch, rfl, same, differs⟩ := begins
  refine ⟨before, stretch ++ [pass], by simp, ?_, ?_⟩
  · intro other member
    rcases List.mem_append.1 (List.cons_append ▸ member) with earlier | isPass
    · exact (same other earlier).trans alike
    · rw [List.mem_singleton.1 isPass]
  · exact fun other isLast => alike ▸ differs other isLast

/-- A pass that does not leave the policy as the last one did begins a stretch. -/
theorem anew (differs : last.outcome.isReady ≠ pass.outcome.isReady) :
    pass.BeginsLastStretch pass (passes ++ [last] ++ [pass]) := by
  refine ⟨passes ++ [last], [], rfl, ?_, ?_⟩
  · exact List.forall_mem_singleton.2 rfl
  · intro other isLast
    have same : last = other := by simpa using isLast
    exact same ▸ differs

/-- The first pass of all begins a stretch. -/
theorem alone : pass.BeginsLastStretch pass [pass] :=
  ⟨[], [], rfl, List.forall_mem_singleton.2 rfl, nofun⟩

end PassEnd.BeginsLastStretch

namespace PolicyStatus

/-- The conditions that a status has, if there is one. -/
def conditionsOf (current : Option PolicyStatus) : List Condition :=
  (current.map (·.conditions)).getD []

/-- The status after passes, one after the other. -/
def afterPasses (current : Option PolicyStatus) (passes : List PassEnd) : Option PolicyStatus :=
  passes.foldl
    (fun status pass => some (afterPass status pass.generation pass.outcome pass.time)) current

/-- One more pass is made over the status after the others. -/
theorem afterPasses_append (current : Option PolicyStatus) (passes : List PassEnd)
    (last : PassEnd) : afterPasses current (passes ++ [last]) =
      some (afterPass (afterPasses current passes) last.generation last.outcome last.time) := by
  rw [afterPasses, List.foldl_append]
  rfl

/-! ### The only condition of its type -/

variable {condition other : Condition} {conditions : List Condition}

/-- Conditions of other types stay in front. -/
theorem setCondition_append (absent : ∀ other ∈ conditions, other.type ≠ condition.type)
    (rest : List Condition) :
    setCondition condition (conditions ++ rest) = conditions ++ setCondition condition rest := by
  induction conditions with
  | nil => rfl
  | cons head earlier ih =>
    have ⟨different, absentLater⟩ := List.forall_mem_cons.1 absent
    rw [List.cons_append, setCondition, if_neg different, ih absentLater, List.cons_append]

/-- A condition of a new type is put behind all others. -/
theorem setCondition_of_absent (absent : ∀ other ∈ conditions, other.type ≠ condition.type) :
    setCondition condition conditions = conditions ++ [condition] := by
  have behind := setCondition_append absent []
  rwa [List.append_nil, setCondition] at behind

/-- A condition takes the place of the only one of its type behind all others. -/
theorem setCondition_of_last (absent : ∀ other ∈ conditions, other.type ≠ condition.type)
    (same : other.type = condition.type) :
    setCondition condition (conditions ++ [other]) = conditions ++ [condition] := by
  rw [setCondition_append absent, setCondition, if_pos same]

/-- Without a ready condition there is none of a status. -/
theorem find?_of_absent (absent : ∀ other ∈ conditions, other.type ≠ readyType)
    (status : ConditionStatus) :
    conditions.find? (fun c => c.type = readyType ∧ c.status = status) = none := by
  rw [List.find?_eq_none]
  intro other member both
  exact absent other member (of_decide_eq_true both).1

/-- Without a ready condition there is no transition time. -/
theorem transitionTime?_of_absent (absent : ∀ other ∈ conditions, other.type ≠ readyType)
    (status : ConditionStatus) : transitionTime? status conditions = none := by
  rw [transitionTime?, find?_of_absent absent, Option.bind_none]

/-- The transition time of the only ready condition counts if its status is the same. -/
theorem transitionTime?_of_last (absent : ∀ other ∈ conditions, other.type ≠ readyType)
    (isReady : other.type = readyType) (status : ConditionStatus) :
    transitionTime? status (conditions ++ [other]) =
      if other.status = status then other.lastTransitionTime else none := by
  rw [transitionTime?, List.find?_append, find?_of_absent absent, Option.none_or,
    List.find?_singleton]
  by_cases same : other.status = status
  · simp [isReady, same]
  · simp [same]

/-! ### The history -/

/-- What the ready condition tells after passes of which the last one ended in some way. -/
structure ReadyTells (passes : List PassEnd) (last : PassEnd) (ready : Condition) : Prop where
  type : ready.type = readyType
  /-- It holds just where the last pass left the policy in force. -/
  status : ready.status = if last.outcome.reason = .fabricSynced then .true else .false
  reason : ready.reason = some last.outcome.reason.name
  message : ready.message = some last.outcome.message
  generation : ready.observedGeneration = last.generation
  /-- It has been as it is since the first pass of the last stretch. -/
  since : ∃ first : PassEnd, first.BeginsLastStretch last passes ∧
    ready.lastTransitionTime = some first.time.text

/-- What a status tells after passes of which the last one ended in some way, where there were
conditions before. -/
structure TellsHistory (before : List Condition) (passes : List PassEnd) (last : PassEnd)
    (status : PolicyStatus) : Prop where
  generation : status.observedGeneration = last.generation
  /-- The conditions that there were are as they were, and behind them stands the ready
  condition. -/
  tells : ∃ ready, status.conditions = before ++ [ready] ∧ ReadyTells passes last ready
  /-- No other condition is a ready condition. -/
  once : (status.conditions.filter (·.type = readyType)).length = 1

variable {before : List Condition} {passes : List PassEnd} {last pass : PassEnd}

/-- What the ready condition tells is settled by its transition time. -/
theorem readyTells_readyAfter {first : PassEnd} {conditions : List Condition}
    (begins : first.BeginsLastStretch last passes)
    (since : (transitionTime? last.outcome.conditionStatus conditions).getD last.time.text =
      first.time.text) :
    ReadyTells passes last
      (readyAfter conditions last.generation last.outcome last.time) where
  type := rfl
  status := last.outcome.conditionStatus_eq
  reason := rfl
  message := rfl
  generation := rfl
  since := ⟨first, begins, congrArg some since⟩

/-- A ready condition behind conditions of other types is the only one. -/
theorem tellsHistory_of_readyTells {ready : Condition}
    (absent : ∀ other ∈ before, other.type ≠ readyType) (tells : ReadyTells passes last ready) :
    TellsHistory before passes last ⟨last.generation, before ++ [ready]⟩ where
  generation := rfl
  tells := ⟨ready, rfl, tells⟩
  once := by
    have skipped : before.filter (·.type = readyType) = [] := by
      rw [List.filter_eq_nil_iff]
      exact fun other member isReady => absent other member (of_decide_eq_true isReady)
    simp [List.filter_append, skipped, tells.type]

/-- The first pass leaves a status that tells of it. -/
theorem tellsHistory_first (current : Option PolicyStatus)
    (absent : ∀ other ∈ conditionsOf current, other.type ≠ readyType) :
    TellsHistory (conditionsOf current) [pass] pass
      (afterPass current pass.generation pass.outcome pass.time) := by
  let ready := readyAfter (conditionsOf current) pass.generation pass.outcome pass.time
  have isNew : setCondition ready (conditionsOf current) = conditionsOf current ++ [ready] :=
    setCondition_of_absent absent
  change TellsHistory _ _ _ ⟨pass.generation, setCondition ready (conditionsOf current)⟩
  rw [isNew]
  refine tellsHistory_of_readyTells absent (readyTells_readyAfter .alone ?_)
  rw [transitionTime?_of_absent absent, Option.getD_none]

/-- One more pass leaves a status that tells of it as well. -/
theorem TellsHistory.goesOn {status : PolicyStatus}
    (absent : ∀ other ∈ before, other.type ≠ readyType)
    (tells : TellsHistory before (passes ++ [last]) last status) :
    TellsHistory before (passes ++ [last] ++ [pass]) pass
      (afterPass (some status) pass.generation pass.outcome pass.time) := by
  obtain ⟨ready, isReady, told⟩ := tells.tells
  obtain ⟨first, begins, since⟩ := told.since
  have wasStatus : ready.status = last.outcome.conditionStatus :=
    told.status.trans last.outcome.conditionStatus_eq.symm
  let renewed := readyAfter (before ++ [ready]) pass.generation pass.outcome pass.time
  have replaced : setCondition renewed (before ++ [ready]) = before ++ [renewed] :=
    setCondition_of_last absent told.type
  have known : transitionTime? pass.outcome.conditionStatus (before ++ [ready]) =
      if ready.status = pass.outcome.conditionStatus then ready.lastTransitionTime else none :=
    transitionTime?_of_last absent told.type _
  rw [afterPass_eq, Option.map_some, Option.getD_some, isReady, replaced]
  refine tellsHistory_of_readyTells absent ?_
  by_cases alike : last.outcome.isReady = pass.outcome.isReady
  · -- The condition keeps its status, and with it the time that it tells.
    have keeps : ready.status = pass.outcome.conditionStatus :=
      wasStatus.trans (Outcome.conditionStatus_eq_iff.2 alike)
    refine readyTells_readyAfter (begins.goesOn alike) ?_
    rw [known, if_pos keeps, since, Option.getD_some]
  · have flips : ready.status ≠ pass.outcome.conditionStatus := fun same =>
      alike (Outcome.conditionStatus_eq_iff.1 (wasStatus.symm.trans same))
    refine readyTells_readyAfter (.anew alike) ?_
    rw [known, if_neg flips, Option.getD_none]

/-- Whatever the passes were, the status after them tells of the last one and of the first one since
which they have ended alike, where the status before told of none. -/
theorem afterPasses_tellsHistory (current : Option PolicyStatus)
    (absent : ∀ other ∈ conditionsOf current, other.type ≠ readyType) (earlier : List PassEnd)
    (last : PassEnd) :
    ∃ status, afterPasses current (earlier ++ [last]) = some status ∧
      TellsHistory (conditionsOf current) (earlier ++ [last]) last status := by
  induction earlier using List.reverseRecOn generalizing last with
  | nil => exact ⟨_, rfl, tellsHistory_first current absent⟩
  | append_singleton earlier previous ih =>
    obtain ⟨status, comes, tells⟩ := ih previous
    refine ⟨_, ?_, tells.goesOn absent⟩
    rw [afterPasses_append, comes]

/-- A policy that was in force, then failed for two reasons, has not been in force since the first
of the failures. -/
theorem afterPasses_tellsHistory_failing :
    let enforced : Condition := ⟨"Enforced", .unknown, none, none, none, none⟩
    let passes : List PassEnd := [
      ⟨some 1, .syncFailed "no network", ⟨0, 0⟩⟩, ⟨some 1, .synced, ⟨60, 0⟩⟩,
      ⟨some 2, .syncFailed "no network", ⟨120, 0⟩⟩]
    let last : PassEnd := ⟨some 3, .clusterIdExtractionFailed "no peer", ⟨180, 0⟩⟩
    (∀ other ∈ conditionsOf (some ⟨none, [enforced]⟩), other.type ≠ readyType) ∧
      ∃ status, afterPasses (some ⟨none, [enforced]⟩) (passes ++ [last]) = some status ∧
        TellsHistory [enforced] (passes ++ [last]) last status ∧
        status.ready?.map (·.lastTransitionTime) = some (some "1970-01-01T00:02:00Z") := by
  intro enforced passes last
  have absent : ∀ other ∈ conditionsOf (some ⟨none, [enforced]⟩), other.type ≠ readyType := by
    decide
  obtain ⟨status, comes, tells⟩ := afterPasses_tellsHistory _ absent passes last
  refine ⟨absent, status, comes, tells, ?_⟩
  have isStatus : some status = afterPasses (some ⟨none, [enforced]⟩) (passes ++ [last]) :=
    comes.symm
  cases isStatus
  decide +kernel

end PolicyStatus

end PeerFirewall
