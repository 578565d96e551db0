import PeerFirewall.Proofs.Json.Members

/-!
# Merge patches

A merge patch (RFC 7386) is laid over a value. If it is an object, a member of it that is null
erases the member of its name, and any other member is laid over the one of its name; anything else
takes the place of what was there (`Json.mergePatch`). What is not named by a merge patch is kept
(`Json.valuesOf_mergeMembers_of_not_mem`), and what is named is as the merge patch says
(`Json.valuesOf_mergeMembers_of_mem`).
-/
namespace PeerFirewall.Json

/-- A value without the members of a name. -/
def without (value : Json) (name : String) : Json := .obj (value.members.filter (·.1 ≠ name))

/-- Erasing a member leaves the values of other names. -/
theorem valuesOf_without (value : Json) (name other : String) :
    valuesOf other (value.without name).members =
      if other = name then [] else valuesOf other value.members :=
  valuesOf_filter name other value.members

mutual

/-- A value with a merge patch laid over it. -/
def mergePatch : (patch value : Json) → Json
  | .obj changes, value => mergeMembers changes (.obj value.members)
  | patch, _ => patch

/-- An object with the members of a merge patch laid over it, one after the other. -/
def mergeMembers : (changes : List (String × Json)) → (object : Json) → Json
  | [], object => object
  | (name, change) :: rest, object =>
    mergeMembers rest
      (if change = .null then object.without name
        else object.withMember name (mergePatch change ((object.get? name).getD .null)))

end

/-- An object under a merge patch is an object. -/
theorem obj_members_mergeMembers (changes members : List (String × Json)) :
    .obj (mergeMembers changes (.obj members)).members = mergeMembers changes (.obj members) := by
  induction changes generalizing members with
  | nil =>
    rw [mergeMembers]
    rfl
  | cons head rest ih =>
    rw [mergeMembers]
    split <;> exact ih _

variable {changes : List (String × Json)} {object : Json} {name : String}

/-- What a merge patch does not name is kept. -/
theorem valuesOf_mergeMembers_of_not_mem (unnamed : name ∉ changes.map (·.1)) :
    valuesOf name (mergeMembers changes object).members = valuesOf name object.members := by
  induction changes generalizing object with
  | nil => rw [mergeMembers]
  | cons head rest ih =>
    obtain ⟨other, change⟩ := head
    have different : name ≠ other := List.ne_of_not_mem_cons unnamed
    rw [mergeMembers, ih (List.not_mem_of_not_mem_cons unnamed)]
    split
    · rw [valuesOf_without, if_neg different]
    · rw [valuesOf_withMember, if_neg different]

/-- What a merge patch names once is what it lays over what was there. -/
theorem valuesOf_mergeMembers_of_mem (distinct : (changes.map (·.1)).Nodup) {change : Json}
    (member : (name, change) ∈ changes) (present : change ≠ .null) :
    valuesOf name (mergeMembers changes object).members =
      [mergePatch change ((object.get? name).getD .null)] := by
  induction changes generalizing object with
  | nil => cases member
  | cons head rest ih =>
    obtain ⟨other, first⟩ := head
    obtain ⟨unnamed, distinctLater⟩ := List.nodup_cons.1 distinct
    rw [mergeMembers]
    rcases List.mem_cons.1 member with same | later
    · cases same
      rw [valuesOf_mergeMembers_of_not_mem unnamed, if_neg present, valuesOf_withMember,
        if_pos rfl]
    · have different : name ≠ other := by
        rintro rfl
        exact unnamed (List.mem_map.2 ⟨_, later, rfl⟩)
      have kept (changed : Json) (keeps : valuesOf name changed.members =
          valuesOf name object.members) : changed.get? name = object.get? name := by
        rw [get?_eq_getLast?, get?_eq_getLast?, keeps]
      rw [ih distinctLater later]
      split
      · rw [kept _ ((valuesOf_without ..).trans (if_neg different))]
      · rw [kept _ ((valuesOf_withMember ..).trans (if_neg different))]

/-- What is no object takes the place of what was there. -/
theorem mergePatch_of_plain {patch : Json} (plain : ∀ changes, patch ≠ .obj changes)
    (value : Json) : mergePatch patch value = patch := by
  cases patch with
  | obj changes => exact absurd rfl (plain changes)
  | _ => rw [mergePatch]; nofun

/-- The members of an object under a merge patch are its own or named by the merge patch. -/
theorem mem_members_mergeMembers {member : String × Json}
    (isMember : member ∈ (mergeMembers changes object).members) :
    member ∈ object.members ∨ member.1 ∈ changes.map (·.1) := by
  induction changes generalizing object with
  | nil =>
    rw [mergeMembers] at isMember
    exact .inl isMember
  | cons head rest ih =>
    obtain ⟨other, change⟩ := head
    rw [mergeMembers] at isMember
    rcases ih isMember with kept | named
    · split at kept
      · exact .inl (List.mem_filter.1 kept).1
      · rcases name_of_mem_withMember kept with kept | rfl
        · exact .inl kept
        · exact .inr List.mem_cons_self
    · exact .inr (List.mem_cons_of_mem _ named)

end PeerFirewall.Json
