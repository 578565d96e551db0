import Mathlib.Data.List.Nodup
import PeerFirewall.Proofs.Resource.RoundTrip
import PeerFirewall.Resource.Definition
import PeerFirewall.Service.Arguments

/-!
# The names of groups

Objects, the schema of their kind and the command line agree on what the groups are called
(`Group.names_agree`). Each of the three is compared with one list of names, `Group.named`: objects
may hold a group under just these, the schema admits just these, and the command line reads just
these and what differs from them in the case of ASCII letters only (`Text.SameButCase`). The command
line takes the first name that fits. That this is the one that is meant holds because no text fits
two names: names have no capitals, so names that are the same up to their case are the same.
-/
namespace PeerFirewall

/-! ### The case of letters -/

namespace Text

/-- Whether a character is the letter at that place of the ASCII alphabet, in either case. -/
def IsLetter (place : Fin 26) (c : Char) : Prop :=
  c.toNat = 'A'.toNat + place ∨ c.toNat = 'a'.toNat + place

/-- Two characters that are the same up to the case of ASCII letters. -/
inductive SameLetter : Char → Char → Prop where
  /-- Every character is the same as itself. -/
  | refl (c : Char) : SameLetter c c
  /-- A letter is the same in either case. -/
  | letter (place : Fin 26) {c d : Char} : IsLetter place c → IsLetter place d → SameLetter c d

/-- It does not matter which of two characters comes first. -/
theorem SameLetter.symm {c d : Char} (same : SameLetter c d) : SameLetter d c := by
  cases same with
  | refl => exact .refl c
  | letter place isC isD => exact .letter place isD isC

/-- A capital and the small letter at the same place are the same letter. -/
theorem SameLetter.of_lowered {c d : Char} (capital : 65 ≤ c.toNat ∧ c.toNat ≤ 90)
    (lowered : d.toNat = c.toNat + 32) : SameLetter c d := by
  have inAlphabet : c.toNat - 65 < 26 := by omega
  refine .letter ⟨c.toNat - 65, inAlphabet⟩ (.inl ?_) (.inr ?_)
  · change c.toNat = 65 + (c.toNat - 65)
    omega
  · change d.toNat = 97 + (c.toNat - 65)
    omega

/-- Two texts that are the same up to the case of ASCII letters. -/
def SameButCase (text other : String) : Prop :=
  List.Forall₂ SameLetter text.toList other.toList

/-- Every text is the same as itself. -/
theorem SameButCase.refl (text : String) : SameButCase text text :=
  List.forall₂_same.2 fun c _ => .refl c

end Text

namespace Group

/-- A capital is lowered to the small letter, and every other character is kept. -/
theorem toNat_lowerAscii (c : Char) :
    (lowerAscii c).toNat = if 65 ≤ c.toNat ∧ c.toNat ≤ 90 then c.toNat + 32 else c.toNat := by
  have isCapital : ('A' ≤ c ∧ c ≤ 'Z') ↔ 65 ≤ c.toNat ∧ c.toNat ≤ 90 := by
    simp only [Char.le_def, UInt32.le_iff_toNat_le, Char.toNat_val]
    rfl
  unfold lowerAscii
  by_cases capital : 65 ≤ c.toNat ∧ c.toNat ≤ 90
  · have between : c.val ≥ 'A'.val ∧ c.val ≤ 'Z'.val := isCapital.2 capital
    have lowered : c.toLower.val = c.val + 32 := congrArg Char.val (dif_pos between)
    have inRange : c.toNat + 32 < 2 ^ 32 := by omega
    rw [if_pos (isCapital.2 capital), if_pos capital]
    change c.toLower.val.toNat = c.val.toNat + 32
    rw [lowered, UInt32.toNat_add]
    exact Nat.mod_eq_of_lt inRange
  · rw [if_neg (mt isCapital.1 capital), if_neg capital]

/-- Two characters are lowered alike just where they are the same up to their case. -/
theorem lowerAscii_eq_iff {c d : Char} : lowerAscii c = lowerAscii d ↔ Text.SameLetter c d := by
  rw [← Char.toNat_inj, toNat_lowerAscii, toNat_lowerAscii]
  constructor
  · intro same
    -- Of two different characters that are lowered alike, one is the capital of the other.
    have possible : c.toNat = d.toNat ∨
        ((65 ≤ c.toNat ∧ c.toNat ≤ 90) ∧ d.toNat = c.toNat + 32) ∨
        ((65 ≤ d.toNat ∧ d.toNat ≤ 90) ∧ c.toNat = d.toNat + 32) := by
      split at same <;> split at same <;> omega
    rcases possible with alike | ⟨capital, lowered⟩ | ⟨capital, lowered⟩
    · exact Char.toNat_inj.1 alike ▸ .refl c
    · exact .of_lowered capital lowered
    · exact (Text.SameLetter.of_lowered capital lowered).symm
  · intro same
    cases same with
    | refl => rfl
    | letter place isC isD =>
      have inAlphabet : place.val < 26 := place.isLt
      change c.toNat = 65 + place.val ∨ c.toNat = 97 + place.val at isC
      change d.toNat = 65 + place.val ∨ d.toNat = 97 + place.val at isD
      split <;> split <;> omega

/-- The comparison that ignores the case of letters finds texts that are the same up to it. -/
theorem eqIgnoringCase_iff {text other : String} :
    eqIgnoringCase text other = true ↔ Text.SameButCase text other := by
  rw [eqIgnoringCase, decide_eq_true_iff, ← List.forall₂_eq_eq_eq, List.forall₂_map_left_iff,
    List.forall₂_map_right_iff, Text.SameButCase]
  simp only [lowerAscii_eq_iff]

/-! ### One list of names -/

/-- Every name with the group it stands for: the canonical names, then the short ones. -/
def named : List (String × Group) := all.map (fun group => (group.name, group)) ++ aliases

/-- Every group is listed. -/
theorem mem_all (group : Group) : group ∈ all := by
  cases group <;> decide

/-- The names of a group are its canonical name and its short one. -/
theorem mem_named {text : String} {group : Group} :
    (text, group) ∈ named ↔ text = group.name ∨ (text, group) ∈ aliases := by
  simp [named, mem_all, eq_comm]

/-- Names have no capitals. -/
theorem map_lowerAscii_of_mem_named :
    ∀ entry ∈ named, entry.1.toList.map lowerAscii = entry.1.toList := by
  decide +kernel

/-- No name stands for two groups. -/
theorem nodup_named : (named.map (·.1)).Nodup := by
  decide

/-- No text fits two names. -/
theorem eq_of_fits {entry other : String × Group} {text : String} (isNamed : entry ∈ named)
    (isNamedToo : other ∈ named) (fits : eqIgnoringCase entry.1 text = true)
    (fitsToo : eqIgnoringCase other.1 text = true) : entry = other := by
  have lowered : entry.1.toList.map lowerAscii = other.1.toList.map lowerAscii :=
    (of_decide_eq_true fits).trans (of_decide_eq_true fitsToo).symm
  have same : entry.1 = other.1 := by
    rw [map_lowerAscii_of_mem_named entry isNamed,
      map_lowerAscii_of_mem_named other isNamedToo] at lowered
    exact String.toList_inj.1 lowered
  exact List.inj_on_of_nodup_map nodup_named isNamed isNamedToo same

/-! ### What objects, schema and command line make of it -/

/-- Objects may hold a group under just its names. -/
theorem decode_str_iff_named {text : String} {group : Group} :
    decode (.str text) = .ok group ↔ (text, group) ∈ named :=
  decode_str_eq_ok.trans mem_named.symm

/-- The schema admits just the names. -/
theorem mem_schemaNames {text : String} :
    text ∈ schemaNames ↔ ∃ group, (text, group) ∈ named := by
  have listed : schemaNames = named.map (·.1) := rfl
  simp [listed]

/-- The command line reads a text as the group one of whose names it is up to the case of
letters. -/
theorem parse?_eq_some_iff {text : String} {group : Group} :
    parse? text = some group ↔ ∃ name, (name, group) ∈ named ∧ Text.SameButCase name text := by
  have search : parse? text = (named.find? fun entry => eqIgnoringCase entry.1 text).map (·.2) :=
    rfl
  rw [search, Option.map_eq_some_iff]
  simp only [← eqIgnoringCase_iff]
  constructor
  · rintro ⟨⟨name, _⟩, found, rfl⟩
    have fits : eqIgnoringCase name text = true := by simpa using List.find?_some found
    exact ⟨name, List.mem_of_find?_eq_some found, fits⟩
  · rintro ⟨name, isNamed, fits⟩
    have isFound : (named.find? fun entry => eqIgnoringCase entry.1 text).isSome :=
      List.find?_isSome.2 ⟨(name, group), isNamed, fits⟩
    -- The search may stop before it comes to the given name, but no other name fits.
    obtain ⟨first, found⟩ := Option.isSome_iff_exists.1 isFound
    have firstFits : eqIgnoringCase first.1 text = true := by simpa using List.find?_some found
    have same : first = (name, group) :=
      eq_of_fits (List.mem_of_find?_eq_some found) isNamed firstFits fits
    exact ⟨first, found, by rw [same]⟩

/-- The command line reads just what has a group. -/
theorem readGroup_eq_ok_iff {text : String} {group : Group} :
    Arguments.readGroup text = .ok group ↔ parse? text = some group := by
  unfold Arguments.readGroup
  cases parse? text <;> simp

/-- What the command line does not read it reports. -/
theorem readGroup_eq_error_iff {text : String} :
    Arguments.readGroup text = .error (unknownMessage text) ↔
      ¬ ∃ group, Arguments.readGroup text = .ok group := by
  unfold Arguments.readGroup
  cases parse? text <;> simp

/-- Schema, objects and command line agree on the names of groups. The schema admits just the texts
under which an object may hold a group. The command line reads each of those texts, and each one
that differs from it in the case of ASCII letters only, as the group that an object holds under it,
and reports every other text as unknown. The name under which a group is written is the one by which
it is displayed, and all three accept it for that group. -/
theorem names_agree :
    (∀ text, text ∈ Policy.admittedGroups ↔ ∃ group, decode (.str text) = .ok group) ∧
    (∀ text group, Arguments.readGroup text = .ok group ↔
      ∃ name, decode (.str name) = .ok group ∧ Text.SameButCase name text) ∧
    (∀ text, Arguments.readGroup text = .error (unknownMessage text) ↔
      ¬ ∃ name group, decode (.str name) = .ok group ∧ Text.SameButCase name text) ∧
    ∀ group : Group, group.encode = .str group.name ∧ group.name ∈ Policy.admittedGroups ∧
      decode group.encode = .ok group ∧ Arguments.readGroup group.name = .ok group := by
  have admits : ∀ text, text ∈ Policy.admittedGroups ↔ ∃ group, decode (.str text) = .ok group := by
    intro text
    simp only [decode_str_iff_named]
    exact mem_schemaNames
  have reads : ∀ text group, Arguments.readGroup text = .ok group ↔
      ∃ name, decode (.str name) = .ok group ∧ Text.SameButCase name text := by
    intro text group
    simp only [decode_str_iff_named]
    exact readGroup_eq_ok_iff.trans parse?_eq_some_iff
  refine ⟨admits, reads, fun text => ?_, fun group => ?_⟩
  · simp only [readGroup_eq_error_iff, reads]
    rw [exists_comm]
  · have written : group.encode = .str group.name := congrArg Json.str group.written_eq_name
    have decodes : decode (.str group.name) = .ok group := decode_str_eq_ok.2 (.inl rfl)
    exact ⟨written, (admits _).2 ⟨group, decodes⟩, written ▸ decodes,
      (reads _ _).2 ⟨group.name, decodes, .refl _⟩⟩

/-- Letters of ASCII may be written in either case, other letters that look alike may not. -/
example : Arguments.readGroup "VC-Remote" = .ok .virtualClusterRemote ∧
    Arguments.readGroup "private-\u017fubnets" =
      .error (unknownMessage "private-\u017fubnets") := by
  decide +kernel

end Group

end PeerFirewall
