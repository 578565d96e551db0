import PeerFirewall.Json.Basic

/-!
# Members of objects

What matters of an object for reading it is which values each name has (`Json.valuesOf`). This
module says which they are where an object is written (`Json.valuesOf_present`) and where one of its
members is set (`Json.valuesOf_withMember`).
-/
namespace PeerFirewall.Json

/-- The members of an object; other values have none. -/
def members : Json → List (String × Json)
  | .obj members => members
  | _ => []

/-- The values of the members of a name, in order. -/
def valuesOf (name : String) (members : List (String × Json)) : List Json :=
  members.filterMap fun member => if member.1 = name then some member.2 else none

/-- The members that are present. -/
def present (members : List (String × Option Json)) : List (String × Json) :=
  members.filterMap fun member => member.2.map (member.1, ·)

/-- A record has the members that are present. -/
@[simp] theorem members_record (fields : List (String × Option Json)) :
    (record fields).members = present fields := rfl

/-- The values of a name in members behind others come behind those in the others. -/
theorem valuesOf_append (name : String) (first second : List (String × Json)) :
    valuesOf name (first ++ second) = valuesOf name first ++ valuesOf name second :=
  List.filterMap_append

/-- The values of a name among the members that are present. -/
theorem valuesOf_present (name : String) (members : List (String × Option Json)) :
    valuesOf name (present members) =
      members.flatMap fun member => if member.1 = name then member.2.toList else [] := by
  induction members with
  | nil => rfl
  | cons member rest ih =>
    obtain ⟨other, value⟩ := member
    rw [List.flatMap_cons, ← ih]
    cases value with
    | none => simp [present, valuesOf]
    | some value =>
      by_cases same : other = name
      · simp [present, valuesOf, same]
      · simp [present, valuesOf, same]

/-- Members that are present have the names of members. -/
theorem name_mem_of_mem_present {members : List (String × Option Json)} {member : String × Json}
    (isPresent : member ∈ present members) : member.1 ∈ members.map (·.1) := by
  obtain ⟨source, listed, same⟩ := List.mem_filterMap.1 isPresent
  obtain ⟨value, _, rfl⟩ := Option.map_eq_some_iff.1 same
  exact List.mem_map_of_mem listed

/-- The value of a name is the last of its values. -/
theorem get?_eq_getLast? (name : String) (value : Json) :
    value.get? name = (valuesOf name value.members).getLast? := by
  cases value with
  | obj fields =>
    simp only [get?, members, valuesOf]
    rw [← List.head?_reverse, ← List.filterMap_reverse]
    induction fields.reverse with
    | nil => rfl
    | cons head rest ih =>
      by_cases same : head.1 = name
      · simp [same]
      · simpa [same] using ih
  | _ => rfl

/-- Without the members of a name, there are no values of it and all values of others. -/
theorem valuesOf_filter (name other : String) (fields : List (String × Json)) :
    valuesOf other (fields.filter (·.1 ≠ name)) =
      if other = name then [] else valuesOf other fields := by
  induction fields with
  | nil => simp [valuesOf]
  | cons head rest ih =>
    simp only [valuesOf] at ih
    by_cases isName : head.1 = name
    · by_cases same : other = name
      · simp [valuesOf, isName, same]
      · simpa [valuesOf, isName, same, Ne.symm same] using ih
    · by_cases same : other = name
      · simp [valuesOf, isName, same]
      · simp only [same, if_false] at ih ⊢
        simp only [valuesOf, isName, ne_eq, not_false_eq_true, decide_true, List.filter_cons_of_pos,
          List.filterMap_cons, ih]

/-- An object with one value for a name, in place of those it had. -/
def withMember (object : Json) (name : String) (value : Json) : Json :=
  .obj (object.members.filter (·.1 ≠ name) ++ [(name, value)])

/-- A member that is set has its value, and the others keep theirs. -/
theorem valuesOf_withMember (object : Json) (name : String) (value : Json) (other : String) :
    valuesOf other (object.withMember name value).members =
      if other = name then [value] else valuesOf other object.members := by
  have split : valuesOf other (object.withMember name value).members =
      valuesOf other (object.members.filter (·.1 ≠ name)) ++ valuesOf other [(name, value)] :=
    valuesOf_append ..
  rw [split, valuesOf_filter]
  by_cases same : other = name
  · simp [same, valuesOf]
  · simp [same, valuesOf, Ne.symm same]

/-- The value of a member that is set is the one that it is set to. -/
theorem get?_withMember (object : Json) (name : String) (value : Json) (other : String) :
    (object.withMember name value).get? other =
      if other = name then some value else object.get? other := by
  rw [get?_eq_getLast?, get?_eq_getLast?, valuesOf_withMember]
  split <;> rfl

/-- Setting a member leaves no other names than those there were and its own. -/
theorem name_of_mem_withMember {object value : Json} {name : String} {member : String × Json}
    (isMember : member ∈ (object.withMember name value).members) :
    member ∈ object.members ∨ member = (name, value) := by
  rcases List.mem_append.1 isMember with kept | added
  · exact .inl (List.mem_filter.1 kept).1
  · exact .inr (List.mem_singleton.1 added)

end PeerFirewall.Json
