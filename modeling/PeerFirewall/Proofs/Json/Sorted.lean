import PeerFirewall.Json.Reader

/-!
# Values with sorted members

Sorting the members of a value leaves them in order, so it changes nothing the second time
(`Json.sorted_sorted`), and it brings no fault into a value (`Json.readFault?_sorted`).
-/
namespace PeerFirewall.Json

/-! ### One insertion -/

/-- Insertion adds its member and keeps others. -/
theorem mem_insertMember {name : String} {value : Json} {members : List (String × Json)}
    {member : String × Json} (isMember : member ∈ insertMember name value members) :
    member = (name, value) ∨ member ∈ members := by
  induction members with
  | nil => exact .inl (List.mem_singleton.1 isMember)
  | cons head rest ih =>
    obtain ⟨other, kept⟩ := head
    unfold insertMember at isMember
    split at isMember
    · exact List.mem_cons.1 isMember
    · split at isMember
      · exact (List.mem_cons.1 isMember).imp id (List.mem_cons_of_mem _)
      · rcases List.mem_cons.1 isMember with rfl | later
        · exact .inr List.mem_cons_self
        · exact (ih later).imp id (List.mem_cons_of_mem _)

/-- Insertion keeps the order. -/
theorem insertMember_ordered {name : String} {value : Json} {members : List (String × Json)}
    (ordered : members.Pairwise fun a b => a.1 < b.1) :
    (insertMember name value members).Pairwise fun a b => a.1 < b.1 := by
  induction members with
  | nil => exact List.pairwise_singleton ..
  | cons head rest ih =>
    obtain ⟨other, kept⟩ := head
    have ⟨above, tail⟩ := List.pairwise_cons.1 ordered
    unfold insertMember
    split
    · rename_i lower
      refine List.pairwise_cons.2 ⟨fun member isMember => ?_, ordered⟩
      rcases List.mem_cons.1 isMember with rfl | later
      · exact lower
      · exact String.lt_trans lower (above member later)
    · rename_i notLower
      split
      · rename_i same
        subst same
        exact List.pairwise_cons.2 ⟨above, tail⟩
      · rename_i different
        refine List.pairwise_cons.2 ⟨fun member isMember => ?_, ih tail⟩
        rcases mem_insertMember isMember with rfl | later
        · exact Std.lt_of_le_of_ne (String.not_lt.1 notLower) (Ne.symm different)
        · exact above member later

/-- What comes after all members is put behind them. -/
theorem insertMember_last {name : String} {value : Json} {members : List (String × Json)}
    (last : ∀ member ∈ members, member.1 < name) :
    insertMember name value members = members ++ [(name, value)] := by
  induction members with
  | nil => rfl
  | cons head rest ih =>
    obtain ⟨other, kept⟩ := head
    have ⟨first, later⟩ := List.forall_mem_cons.1 last
    have notLower : ¬ name < other := String.lt_asymm first
    have different : name ≠ other := fun same => String.lt_irrefl other (same ▸ first)
    rw [insertMember, if_neg notLower, if_neg different, ih later]
    rfl

/-! ### All insertions -/

/-- Sorted members are in order. -/
theorem sortedMembers_ordered (members : List (String × Json)) {done : List (String × Json)}
    (ordered : done.Pairwise fun a b => a.1 < b.1) :
    (sortedMembers members done).Pairwise fun a b => a.1 < b.1 := by
  induction members generalizing done with
  | nil =>
    rw [sortedMembers]
    exact ordered
  | cons head rest ih =>
    rw [sortedMembers]
    exact ih (insertMember_ordered ordered)

/-- Members in order with sorted values are left as they are. -/
theorem sortedMembers_of_ordered {members done : List (String × Json)}
    (ordered : (done ++ members).Pairwise fun a b => a.1 < b.1)
    (fixed : ∀ member ∈ members, sorted member.2 = member.2) :
    sortedMembers members done = done ++ members := by
  induction members generalizing done with
  | nil => rw [sortedMembers, List.append_nil]
  | cons head rest ih =>
    obtain ⟨name, value⟩ := head
    have ⟨first, later⟩ := List.forall_mem_cons.1 fixed
    have last : ∀ member ∈ done, member.1 < name := fun member isDone =>
      (List.pairwise_append.1 ordered).2.2 member isDone _ List.mem_cons_self
    have split : done ++ (name, value) :: rest = (done ++ [(name, value)]) ++ rest := by
      rw [List.append_assoc, List.singleton_append]
    rw [sortedMembers, first, insertMember_last last, split]
    exact ih (split ▸ ordered) later

mutual

/-- A sorted value is sorted already. -/
theorem sorted_sorted : (value : Json) → sorted (sorted value) = sorted value
  | .null | .bool _ | .int _ | .double _ | .str _ | .broken _ => by simp only [sorted]
  | .arr elements => by simp only [sorted, sortedElements_sorted elements]
  | .obj members => by
    have ordered := sortedMembers_ordered members List.Pairwise.nil
    have fixed := sortedMembers_fixed members (List.forall_mem_nil _)
    simp only [sorted]
    rw [sortedMembers_of_ordered ordered fixed]
    rfl

/-- Sorted elements are sorted already. -/
theorem sortedElements_sorted : (elements : List Json) →
    sortedElements (sortedElements elements) = sortedElements elements
  | [] => by simp only [sortedElements]
  | element :: rest => by
    simp only [sortedElements, sorted_sorted element, sortedElements_sorted rest]

/-- The values of sorted members are sorted already. -/
theorem sortedMembers_fixed : (members : List (String × Json)) → {done : List (String × Json)} →
    (∀ member ∈ done, sorted member.2 = member.2) →
    ∀ member ∈ sortedMembers members done, sorted member.2 = member.2
  | [], _, fixed => by
    rw [sortedMembers]
    exact fixed
  | (name, value) :: rest, done, fixed => by
    have value_fixed := sorted_sorted value
    rw [sortedMembers]
    apply sortedMembers_fixed rest
    intro member isMember
    rcases mem_insertMember isMember with rfl | isDone
    · exact value_fixed
    · exact fixed member isDone

end

/-! ### Faults -/

/-- Members have no fault if no value has. -/
theorem readFaultOfMembers_eq_none {depth : Nat} {members : List (String × Json)} :
    readFaultOfMembers depth members = none ↔
      ∀ member ∈ members, member.2.readFault? depth = none := by
  induction members with
  | nil => simp [readFaultOfMembers]
  | cons head rest ih => simp [readFaultOfMembers, Option.or_eq_none_iff, ih]

mutual

/-- A value without fault has none when it is sorted. -/
theorem readFault?_sorted : (value : Json) → {depth : Nat} → value.readFault? depth = none →
    (sorted value).readFault? depth = none
  | .null, _, _ | .bool _, _, _ | .int _, _, _ | .double _, _, _ | .str _, _, _ => by
    simp only [sorted, readFault?]
  | .broken _, _, sound => by simp [readFault?] at sound
  | .arr elements, depth, sound => by
    simp only [readFault?] at sound
    simp only [sorted, readFault?]
    split
    · rename_i shallow
      rw [if_pos shallow] at sound
      exact readFaultOfElements_sorted elements sound
    · rename_i deep
      rw [if_neg deep] at sound
      contradiction
  | .obj members, depth, sound => by
    simp only [readFault?] at sound
    simp only [sorted, readFault?]
    split
    · rename_i shallow
      rw [if_pos shallow] at sound
      exact readFaultOfMembers_eq_none.2
        (readFaultOfMembers_sorted members sound (List.forall_mem_nil _))
    · rename_i deep
      rw [if_neg deep] at sound
      contradiction

/-- Elements without fault have none when they are sorted. -/
theorem readFaultOfElements_sorted : (elements : List Json) → {depth : Nat} →
    readFaultOfElements depth elements = none →
    readFaultOfElements depth (sortedElements elements) = none
  | [], _, _ => by simp only [sortedElements, readFaultOfElements]
  | element :: rest, depth, sound => by
    simp only [readFaultOfElements, Option.or_eq_none_iff] at sound
    simp only [sortedElements, readFaultOfElements, Option.or_eq_none_iff]
    exact ⟨readFault?_sorted element sound.1, readFaultOfElements_sorted rest sound.2⟩

/-- Members without fault have none when they are sorted. -/
theorem readFaultOfMembers_sorted : (members : List (String × Json)) → {depth : Nat} →
    {done : List (String × Json)} → readFaultOfMembers depth members = none →
    (∀ member ∈ done, member.2.readFault? depth = none) →
    ∀ member ∈ sortedMembers members done, member.2.readFault? depth = none
  | [], _, _, _, soundDone => by
    rw [sortedMembers]
    exact soundDone
  | (name, value) :: rest, depth, done, sound, soundDone => by
    simp only [readFaultOfMembers, Option.or_eq_none_iff] at sound
    have soundValue := readFault?_sorted value sound.1
    rw [sortedMembers]
    apply readFaultOfMembers_sorted rest sound.2
    intro member isMember
    rcases mem_insertMember isMember with rfl | isDone
    · exact soundValue
    · exact soundDone member isDone

end

end PeerFirewall.Json
