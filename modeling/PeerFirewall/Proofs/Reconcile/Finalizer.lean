import Mathlib.Data.List.InsertIdx
import PeerFirewall.Proofs.Api.Document
import PeerFirewall.Proofs.Api.Patch
import PeerFirewall.Proofs.Net.CidrText

/-!
# The patches of the finalizer

The mark of the controller is one of the finalizers of a policy (`Json.IsMarked`). Whatever a policy
has become since it was read, the patches that add and remove the mark change neither its name nor
its identity (`Finalizer.added_identity`, `Finalizer.removed_identity`), and the one that adds it
never takes it away (`Finalizer.added_marked`). On the document of a policy they change nothing but
the finalizers: one is applied just where these are as they were read, the other just where the mark
stands in its place (`Finalizer.patched?_added_iff`, `Finalizer.patched?_removed_iff`).
-/
namespace PeerFirewall

/-- Whether an object carries the mark of the controller. -/
def Json.IsMarked (object : Json) : Prop := .str Finalizer.name ∈ object.finalizers

/-- Whether a version of an object is followed by another version of the same object. -/
structure Json.SameIdentity (before after : Json) : Prop where
  name : after.name? = before.name?
  uid : after.uid? = before.uid?

/-- The mark stands in an array of the metadata. -/
theorem Json.IsMarked.found {object : Json} (isMarked : object.IsMarked) :
    ∃ elements, object.get? "metadata" = some object.metadata ∧
      object.metadata.get? "finalizers" = some (.arr elements) ∧
      .str Finalizer.name ∈ elements := by
  unfold IsMarked finalizers elementsOf at isMarked
  split at isMarked
  · rename_i elements found
    refine ⟨elements, ?_, found, isMarked⟩
    cases there : object.get? "metadata" with
    | none =>
      rw [metadata, there] at found
      cases found
    | some value => rw [metadata, there, Option.getD_some]
  · cases isMarked

/-- A patch that tests a value before it does something is refused unless the value is there. -/
theorem Json.patched?_guarded {pointer : String} {tokens : List String}
    (points : tokens? pointer = some tokens) {value operation : Json} {action : PatchOperation}
    (isAction : PatchOperation.read? operation = some action) (object : Json) :
    object.patched? (.arr [Finalizer.testOperation pointer value, operation]) =
      if (object.at? tokens).getD .null = value then action.apply object else none := by
  have isTest : PatchOperation.read? (Finalizer.testOperation pointer value) =
      some (.test pointer value) := rfl
  have tests : (PatchOperation.test pointer value).apply object =
      if (object.at? tokens).getD .null = value then some object else none := by
    rw [PatchOperation.apply, points, Option.bind_some]
  simp only [patched?, List.foldlM_cons, List.foldlM_nil, isTest, isAction, Option.bind_eq_bind,
    Option.bind_some, tests]
  split <;> simp

/-- Where a patch that begins with a test changed something, the value was there. -/
theorem Json.tests_of_guarded {pointer : String} {tokens : List String}
    (points : tokens? pointer = some tokens) {value operation : Json} {action : PatchOperation}
    (isAction : PatchOperation.read? operation = some action) {object changed : Json}
    (patches : object.patched? (.arr [Finalizer.testOperation pointer value, operation]) =
      some changed) :
    (object.at? tokens).getD .null = value ∧ action.apply object = some changed := by
  rw [patched?_guarded points isAction] at patches
  split at patches
  · exact ⟨‹_›, patches⟩
  · cases patches

namespace Finalizer

/-- The operation that adds a value is read as such. -/
theorem read?_addOperation (pointer : String) (value : Json) :
    PatchOperation.read? (addOperation pointer value) = some (.add pointer value) := rfl

/-- The operation that removes a value is read as such. -/
theorem read?_removeOperation (pointer : String) :
    PatchOperation.read? (removeOperation pointer) = some (.remove pointer) := rfl

/-- No patch that adds the mark removes it. -/
theorem added_ne_removed (present : List String) (place : Nat) : added present ≠ removed place := by
  unfold added removed
  split <;> simp [addOperation, removeOperation]

/-- The pointer to the finalizers. -/
theorem tokens_path : Json.tokens? path = some ["metadata", "finalizers"] := by decide

/-- The pointer to the end of the finalizers. -/
theorem tokens_behind_path :
    Json.tokens? (path ++ "/-") = some ["metadata", "finalizers", "-"] := by decide

/-- The pointer to a place among the finalizers. -/
theorem tokens_below_path (place : String) :
    Json.tokens? (path ++ "/" ++ place) =
      some ("metadata" :: "finalizers" :: Json.tokensFrom [] place.toList) := by
  simp only [Json.tokens?, String.toList_append]
  rfl

/-- A change of the finalizers changes neither name nor identity. -/
theorem sameIdentity_of_changeAt {change : String → Json → Option Json}
    (isLocal : Json.IsLocal change) {rest : List String} {object changed : Json}
    (changes : object.changeAt? change ("metadata" :: "finalizers" :: rest) = some changed) :
    object.SameIdentity changed where
  name := Json.metadata_changeAt isLocal (by decide) changes
  uid := Json.metadata_changeAt isLocal (by decide) changes

/-- The patch that removes the mark changes neither name nor identity. -/
theorem removed_identity {place : Nat} {object changed : Json}
    (patches : object.patched? (removed place) = some changed) : object.SameIdentity changed := by
  have ⟨_, removes⟩ := Json.tests_of_guarded (tokens_below_path _)
    (read?_removeOperation _) patches
  rw [PatchOperation.apply, tokens_below_path, Option.bind_some] at removes
  exact sameIdentity_of_changeAt
    (fun _ _ _ removes _ different => Json.get?_removeChild different removes) removes

/-- The patch that adds the mark is the addition of it at a place, if the finalizers are as they
were. -/
theorem added_eq {present : List String} {object changed : Json}
    (patches : object.patched? (added present) = some changed) :
    (object.at? ["metadata", "finalizers"]).getD .null = .null ∧
        object.changeAt? (Json.addChild? (.arr [.str name])) ["metadata", "finalizers"] =
          some changed ∨
      object.changeAt? (Json.addChild? (.str name)) ["metadata", "finalizers", "-"] =
        some changed := by
  unfold added at patches
  split at patches
  · have ⟨absent, adds⟩ := Json.tests_of_guarded tokens_path
      (read?_addOperation _ _) patches
    rw [PatchOperation.apply, tokens_path, Option.bind_some] at adds
    exact .inl ⟨absent, adds⟩
  · have ⟨_, adds⟩ := Json.tests_of_guarded tokens_path
      (read?_addOperation _ _) patches
    rw [PatchOperation.apply, tokens_behind_path, Option.bind_some] at adds
    exact .inr adds

/-- The patch that adds the mark changes neither name nor identity. -/
theorem added_identity {present : List String} {object changed : Json}
    (patches : object.patched? (added present) = some changed) : object.SameIdentity changed := by
  have isLocal (child : Json) : Json.IsLocal (Json.addChild? child) :=
    fun _ _ _ adds _ different => Json.get?_addChild different adds
  rcases added_eq patches with ⟨_, adds⟩ | adds
  · exact sameIdentity_of_changeAt (isLocal _) adds
  · exact sameIdentity_of_changeAt (isLocal _) adds

/-- The patch that adds the mark never takes it away. -/
theorem added_marked {present : List String} {object changed : Json}
    (patches : object.patched? (added present) = some changed) (isMarked : object.IsMarked) :
    changed.IsMarked := by
  obtain ⟨elements, hasMetadata, hasFinalizers, member⟩ := isMarked.found
  have inMetadata := Json.child?_of_get? hasFinalizers
  rcases added_eq patches with ⟨absent, _⟩ | adds
  · have there : object.at? ["metadata", "finalizers"] = some (.arr elements) := by
      simp only [Json.at?, Json.child?_of_get? hasMetadata, inMetadata, Option.bind_some]
    rw [there] at absent
    cases absent
  · simp only [Json.changeAt?, Json.child?_of_get? hasMetadata, inMetadata, Option.bind_some,
      Json.addChild?, if_true, Option.map_some] at adds
    cases adds
    have set := Json.get?_withChild_self hasFinalizers (.arr (elements ++ [.str name]))
    unfold Json.IsMarked Json.finalizers Json.metadata
    rw [Json.get?_withChild_self hasMetadata, Option.getD_some]
    exact set ▸ List.mem_append_left _ member

/-! ### What they come to -/

/-- Digits make one token. -/
theorem tokensFrom_of_digits (begun digits : List Char) (all : ∀ c ∈ digits, c.isDigit) :
    Json.tokensFrom begun digits = [String.ofList (begun.reverse ++ digits)] := by
  induction digits generalizing begun with
  | nil => rw [Json.tokensFrom, List.append_nil]
  | cons c rest ih =>
    obtain ⟨digit, later⟩ := List.forall_mem_cons.1 all
    have noSlash : c ≠ '/' := by
      rintro rfl
      cases digit
    have noTilde : c ≠ '~' := by
      rintro rfl
      cases digit
    rw [Json.tokensFrom, ih _ later, List.reverse_cons, List.append_assoc, List.singleton_append]
    · exact noSlash
    · exact fun _ isTilde => absurd isTilde noTilde
    · exact fun _ isTilde => absurd isTilde noTilde

/-- The pointer to a finalizer by its number. -/
theorem tokens_place (place : Nat) :
    Json.tokens? (path ++ "/" ++ toString place) =
      some ["metadata", "finalizers", toString place] := by
  have all : ∀ c ∈ (toString place).toList, c.isDigit := by
    rw [Nat.toString_eq_ofList_toDigits, String.toList_ofList]
    exact fun _ => Nat.isDigit_of_mem_toDigits (by decide) (by decide)
  rw [tokens_below_path, tokensFrom_of_digits [] _ all, List.reverse_nil, List.nil_append,
    String.ofList_toList]

end Finalizer

namespace Json

/-- A number below a bound is read from its text. -/
theorem place?_toString (place bound : Nat) :
    place? (toString place) bound = if place < bound then some place else none := by
  unfold place?
  split
  · rw [List.find?_range_eq_some]
    refine ⟨decide_eq_true rfl, List.mem_range.2 ‹_›, fun other smaller => ?_⟩
    have different : toString other ≠ toString place :=
      fun same => Nat.ne_of_lt smaller (Net.toString_injective same)
    simpa using different
  · refine List.find?_eq_none.2 fun other inside same => ?_
    obtain rfl := Net.toString_injective (of_decide_eq_true same)
    exact absurd (List.mem_range.1 inside) ‹_›

/-- Whether an object has metadata with these finalizers, or with none where none are given. -/
structure HasFinalizers (object : Json) (finalizers : Option (List String)) : Prop where
  isObject : ∃ members, object = .obj members
  isIn : ∃ inside, object.get? "metadata" = some (.obj inside)
  listed : (object.metadata.get? "finalizers").getD .null =
    (finalizers.map (Json.list .str)).getD .null

/-- An object with other finalizers. -/
def withFinalizers (object : Json) (finalizers : List String) : Json :=
  object.withMember "metadata" (object.metadata.withMember "finalizers" (Json.list .str finalizers))

/-- Other finalizers are those of the object then. -/
theorem finalizers_withFinalizers (object : Json) (finalizers : List String) :
    (object.withFinalizers finalizers).finalizers = finalizers.map .str := by
  rw [Json.finalizers, metadata, withFinalizers, get?_withMember, if_pos rfl, Option.getD_some,
    get?_withMember, if_pos rfl]
  rfl

/-- With other finalizers, the other metadata stays. -/
theorem metadata_withFinalizers (object : Json) (finalizers : List String) {name : String}
    (other : name ≠ "finalizers") :
    (object.withFinalizers finalizers).metadata.get? name = object.metadata.get? name := by
  rw [metadata, withFinalizers, get?_withMember, if_pos rfl, Option.getD_some, get?_withMember,
    if_neg other]

/-- With other finalizers, what is no metadata stays. -/
theorem get?_withFinalizers (object : Json) (finalizers : List String) {name : String}
    (other : name ≠ "metadata") :
    (object.withFinalizers finalizers).get? name = object.get? name := by
  rw [withFinalizers, get?_withMember, if_neg other]

namespace HasFinalizers

variable {object : Json} {finalizers : Option (List String)}

/-- The metadata is an object. -/
theorem metadata_eq (has : object.HasFinalizers finalizers) :
    ∃ inside, object.metadata = .obj inside := by
  obtain ⟨inside, isIn⟩ := has.isIn
  exact ⟨inside, by rw [metadata, isIn, Option.getD_some]⟩

/-- The metadata is what stands there. -/
theorem child?_metadata (has : object.HasFinalizers finalizers) :
    object.child? "metadata" = some object.metadata := by
  obtain ⟨inside, isIn⟩ := has.isIn
  rw [child?_of_get? isIn, metadata, isIn, Option.getD_some]

/-- What is there where a list of finalizers is. -/
theorem get?_of_some {names : List String} (has : object.HasFinalizers (some names)) :
    object.metadata.get? "finalizers" = some (Json.list .str names) := by
  have listed := has.listed
  cases found : object.metadata.get? "finalizers" with
  | none =>
    rw [found] at listed
    cases listed
  | some value =>
    rw [found] at listed
    exact congrArg some listed

/-- What a pointer to the finalizers, or below them, names. -/
theorem at?_eq (has : object.HasFinalizers finalizers) (rest : List String) :
    object.at? ("metadata" :: "finalizers" :: rest) =
      (object.metadata.get? "finalizers").bind (at? rest) := by
  obtain ⟨inside, isObject⟩ := has.metadata_eq
  have below : object.at? ("metadata" :: "finalizers" :: rest) =
      (object.child? "metadata").bind fun child =>
        (child.child? "finalizers").bind (at? rest) := rfl
  rw [below, has.child?_metadata, Option.bind_some, isObject]
  rfl

/-- What the pointer to the finalizers names. -/
theorem at?_path (has : object.HasFinalizers finalizers) :
    object.at? ["metadata", "finalizers"] = object.metadata.get? "finalizers" := by
  rw [has.at?_eq]
  exact Option.bind_fun_some _

/-- What the pointer to a finalizer names. -/
theorem at?_place (has : object.HasFinalizers finalizers) (place : Nat) :
    object.at? ["metadata", "finalizers", toString place] =
      (finalizers.getD [])[place]?.map .str := by
  rw [has.at?_eq]
  cases finalizers with
  | none =>
    cases found : object.metadata.get? "finalizers" with
    | none => rfl
    | some value =>
      obtain rfl : value = .null := by simpa [found] using has.listed
      rfl
  | some names =>
    have names_place : at? [toString place] (Json.list .str names) =
        ((place? (toString place) (names.map Json.str).length).bind
          ((names.map Json.str)[·]?)).bind some := rfl
    rw [has.get?_of_some, Option.bind_some, names_place, place?_toString, Option.bind_fun_some]
    split
    · rw [Option.bind_some, List.getElem?_map, Option.getD_some]
    · rename_i outside
      rw [List.length_map] at outside
      rw [Option.getD_some, List.getElem?_eq_none (Nat.le_of_not_lt outside)]
      rfl

/-- What a change below the metadata comes to. -/
theorem changeAt?_eq (has : object.HasFinalizers finalizers)
    (change : String → Json → Option Json) (token : String) (rest : List String) :
    object.changeAt? change ("metadata" :: token :: rest) =
      (object.metadata.changeAt? change (token :: rest)).map (object.withMember "metadata") := by
  obtain ⟨members, isObject⟩ := has.isObject
  have below : object.changeAt? change ("metadata" :: token :: rest) =
      (object.child? "metadata").bind fun child =>
        (changeAt? change (token :: rest) child).map (object.withChild "metadata") := rfl
  rw [below, has.child?_metadata, Option.bind_some, isObject]
  rfl

/-- What a change below the finalizers comes to, where there are some. -/
theorem changeAt?_list {names : List String} (has : object.HasFinalizers (some names))
    (change : String → Json → Option Json) (token : String) :
    object.changeAt? change ["metadata", "finalizers", token] =
      (change token (Json.list .str names)).map fun changed =>
        object.withMember "metadata" (object.metadata.withMember "finalizers" changed) := by
  obtain ⟨inside, isObject⟩ := has.metadata_eq
  have below : object.metadata.changeAt? change ["finalizers", token] =
      (object.metadata.child? "finalizers").bind fun child =>
        (change token child).map (object.metadata.withChild "finalizers") := rfl
  rw [has.changeAt?_eq, below, child?_of_get? has.get?_of_some, Option.bind_some, Option.map_map,
    isObject]
  rfl

/-- Nothing stands there just where there are no finalizers. -/
theorem listed_eq_null_iff (has : object.HasFinalizers finalizers) :
    (object.metadata.get? "finalizers").getD .null = .null ↔ finalizers = none := by
  rw [has.listed]
  cases finalizers with
  | none => exact iff_of_true rfl rfl
  | some names => exact iff_of_false nofun nofun

/-- Finalizers stand there just where they are those of the object. -/
theorem listed_eq_list_iff (has : object.HasFinalizers finalizers) {names : List String} :
    (object.metadata.get? "finalizers").getD .null = Json.list .str names ↔
      finalizers = some names := by
  rw [has.listed]
  cases finalizers with
  | none => exact iff_of_false nofun nofun
  | some others =>
    have injective : Function.Injective (List.map Json.str) :=
      List.map_injective_iff.2 fun _ _ => Json.str.inj
    simp [Json.list, injective.eq_iff]

end HasFinalizers

end Json

/-- An object that a policy is read from has the finalizers of the policy. -/
theorem Policy.hasFinalizers_of_decode {members : List (String × Json)} {policy : Policy}
    (reads : decode (.obj members) = .ok policy) :
    (Json.obj members).HasFinalizers policy.metadata.finalizers := by
  obtain ⟨value, named, readable⟩ := metadata_found reads
  obtain ⟨inside, rfl, _⟩ := Metadata.fieldsRead_of_decode readable
  refine ⟨⟨members, rfl⟩, ⟨inside, named⟩, ?_⟩
  rw [Json.metadata, named, Option.getD_some]
  exact Metadata.get?_finalizers_of_decode readable

namespace Finalizer

variable {object changed : Json} {finalizers : Option (List String)}

/-- The patch that adds the mark to finalizers is applied just where these are the finalizers of the
object, and puts the mark behind them. -/
theorem patched?_added_iff (has : object.HasFinalizers finalizers) {present : List String} :
    object.patched? (added present) = some changed ↔
      finalizers = (if present = [] then none else some present) ∧
        changed = object.withFinalizers (present ++ [name]) := by
  unfold added
  simp only [List.isEmpty_iff]
  split
  · rename_i isEmpty
    obtain ⟨inside, isObject⟩ := has.metadata_eq
    have adds : object.changeAt? (Json.addChild? (.arr [.str name])) ["metadata", "finalizers"] =
        some (object.withFinalizers (present ++ [name])) := by
      rw [has.changeAt?_eq, isEmpty, Json.withFinalizers, isObject]
      rfl
    rw [Json.patched?_guarded tokens_path
      (read?_addOperation _ _), has.at?_path,
      PatchOperation.apply, tokens_path, Option.bind_some, adds, Option.ite_none_right_eq_some,
      Option.some_inj, eq_comm (b := changed)]
    exact and_congr_left' has.listed_eq_null_iff
  · rename_i isNonempty
    rw [Json.patched?_guarded tokens_path (read?_addOperation _ _), has.at?_path,
      PatchOperation.apply, tokens_behind_path, Option.bind_some, Option.ite_none_right_eq_some,
      has.listed_eq_list_iff]
    refine and_congr_right fun isPresent => ?_
    subst isPresent
    have adds : Json.addChild? (.str name) "-" (Json.list .str present) =
        some (Json.list .str (present ++ [name])) := by
      rw [Json.list, Json.addChild?, if_pos rfl, Json.list, List.map_append, List.map_singleton]
    rw [has.changeAt?_list, adds, Option.map_some, Option.some_inj, eq_comm]
    rfl

/-- The patch that removes the mark from a place is applied just where the mark is there, and
removes it alone. -/
theorem patched?_removed_iff (has : object.HasFinalizers finalizers) {place : Nat} :
    object.patched? (removed place) = some changed ↔
      (finalizers.getD [])[place]? = some name ∧
        changed = object.withFinalizers ((finalizers.getD []).eraseIdx place) := by
  rw [removed, Json.patched?_guarded (tokens_place place) (read?_removeOperation _),
    has.at?_place, PatchOperation.apply, tokens_place, Option.bind_some,
    Option.ite_none_right_eq_some]
  have tests : (Option.map Json.str (finalizers.getD [])[place]?).getD .null = .str name ↔
      (finalizers.getD [])[place]? = some name := by
    cases (finalizers.getD [])[place]? with
    | none => exact iff_of_false nofun nofun
    | some found => simp
  rw [tests]
  refine and_congr_right fun stands => ?_
  cases finalizers with
  | none => simp at stands
  | some names =>
    have inside : place < names.length := (List.getElem?_eq_some_iff.1 stands).1
    have removes : Json.removeChild? (toString place) (Json.list .str names) =
        some (Json.list .str (names.eraseIdx place)) := by
      rw [Json.list, Json.removeChild?, Json.place?_toString, List.length_map, if_pos inside,
        Option.map_some, Json.list, List.eraseIdx_map]
    rw [has.changeAt?_list, removes, Option.map_some, Option.some_inj, eq_comm]
    rfl

end Finalizer

end PeerFirewall
