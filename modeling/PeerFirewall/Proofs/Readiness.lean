import PeerFirewall.Readiness

/-!
# What a status says after a pass

The first condition of type `Ready` is the one that the pass sets (`PolicyStatus.ready?_afterPass`).
Conditions of other types are left as they are (`PolicyStatus.others_afterPass`). Setting it again
after a pass that ends the same way changes nothing, whatever the time is by then
(`PolicyStatus.afterPass_afterPass`).
-/
namespace PeerFirewall.PolicyStatus

open Time (Instant)

/-- The ready condition of a status: the first one of its type. -/
def ready? (status : PolicyStatus) : Option Condition :=
  status.conditions.find? (·.type = readyType)

/-- A condition that is set is the first one of its type. -/
theorem find?_setCondition (condition : Condition) (conditions : List Condition) :
    (setCondition condition conditions).find? (·.type = condition.type) = some condition := by
  induction conditions with
  | nil => simp [setCondition]
  | cons head rest ih =>
    unfold setCondition
    split
    · simp
    · rename_i different
      rw [List.find?_cons_of_neg (by simpa using different)]
      exact ih

/-- A condition that is the first one of its type already changes nothing. -/
theorem setCondition_of_find? {condition : Condition} {conditions : List Condition}
    (present : conditions.find? (·.type = condition.type) = some condition) :
    setCondition condition conditions = conditions := by
  induction conditions with
  | nil => cases present
  | cons head rest ih =>
    by_cases same : head.type = condition.type
    · have isCondition : head = condition := by simpa [same] using present
      rw [setCondition, if_pos same, isCondition]
    · have later : rest.find? (·.type = condition.type) = some condition := by
        simpa [same] using present
      rw [setCondition, if_neg same, ih later]

/-- A condition that is set leaves those of other types as they are. -/
theorem filter_setCondition (condition : Condition) (conditions : List Condition) :
    (setCondition condition conditions).filter (·.type ≠ condition.type) =
      conditions.filter (·.type ≠ condition.type) := by
  induction conditions with
  | nil => simp [setCondition]
  | cons head rest ih =>
    by_cases same : head.type = condition.type
    · simp [setCondition, same]
    · rw [setCondition, if_neg same, List.filter_cons, List.filter_cons, ih]

/-- The transition time of a status that the ready condition has is that of the condition. -/
theorem transitionTime?_of_ready {status : ConditionStatus} {conditions : List Condition}
    {ready : Condition} (isReady : conditions.find? (·.type = readyType) = some ready)
    (hasStatus : ready.status = status) :
    transitionTime? status conditions = ready.lastTransitionTime := by
  have first : conditions.find? (fun c => c.type = readyType ∧ c.status = status) = some ready := by
    induction conditions with
    | nil => cases isReady
    | cons head rest ih =>
      by_cases same : head.type = readyType
      · have isCondition : head = ready := by simpa [same] using isReady
        simp [isCondition ▸ same, isCondition, hasStatus]
      · have later : rest.find? (·.type = readyType) = some ready := by simpa [same] using isReady
        simpa [same] using ih later
  rw [transitionTime?, first, Option.bind_some]

/-- The ready condition that a pass sets among conditions. -/
def readyAfter (conditions : List Condition) (generation : Option Int64) (outcome : Outcome)
    (now : Instant) : Condition where
  type := readyType
  status := outcome.conditionStatus
  observedGeneration := generation
  lastTransitionTime :=
    some ((transitionTime? outcome.conditionStatus conditions).getD now.text)
  reason := some outcome.reason.name
  message := some outcome.message

/-- A pass sets the ready condition among those there are. -/
theorem afterPass_eq (current : Option PolicyStatus) (generation : Option Int64)
    (outcome : Outcome) (now : Instant) :
    afterPass current generation outcome now =
      ⟨generation, setCondition
        (readyAfter ((current.map (·.conditions)).getD []) generation outcome now)
        ((current.map (·.conditions)).getD [])⟩ := rfl

/-- A pass leaves the conditions of other types as they are. -/
theorem others_afterPass (current : Option PolicyStatus) (generation : Option Int64)
    (outcome : Outcome) (now : Instant) :
    (afterPass current generation outcome now).conditions.filter (·.type ≠ readyType) =
      ((current.map (·.conditions)).getD []).filter (·.type ≠ readyType) :=
  filter_setCondition (readyAfter _ generation outcome now) _

/-- The ready condition after a pass is the one that it sets. -/
theorem ready?_afterPass (current : Option PolicyStatus) (generation : Option Int64)
    (outcome : Outcome) (now : Instant) :
    (afterPass current generation outcome now).ready? =
      some (readyAfter ((current.map (·.conditions)).getD []) generation outcome now) :=
  find?_setCondition (readyAfter _ generation outcome now) _

/-- The ready condition that is set keeps the time of the one there is, if that was set alike. -/
theorem readyAfter_of_ready {before conditions : List Condition} {generation : Option Int64}
    {outcome : Outcome} {now : Instant}
    (isReady : conditions.find? (·.type = readyType) =
      some (readyAfter before generation outcome now)) (later : Instant) :
    readyAfter conditions generation outcome later =
      readyAfter before generation outcome now := by
  have since : transitionTime? outcome.conditionStatus conditions =
      some ((transitionTime? outcome.conditionStatus before).getD now.text) :=
    transitionTime?_of_ready isReady rfl
  rw [readyAfter, since]
  rfl

/-- Another pass over the same generation that ends the same way changes nothing. -/
theorem afterPass_afterPass (current : Option PolicyStatus) (generation : Option Int64)
    (outcome : Outcome) (now later : Instant) :
    afterPass (some (afterPass current generation outcome now)) generation outcome later =
      afterPass current generation outcome now := by
  have isReady := ready?_afterPass current generation outcome now
  have isAbout : (afterPass current generation outcome now).observedGeneration = generation := rfl
  generalize afterPass current generation outcome now = status at isReady isAbout ⊢
  have unchanged : setCondition (readyAfter _ generation outcome now) status.conditions =
      status.conditions := setCondition_of_find? isReady
  rw [afterPass_eq, Option.map_some, Option.getD_some, readyAfter_of_ready isReady, unchanged,
    ← isAbout]

end PeerFirewall.PolicyStatus
