import PeerFirewall.Json.Record

/-!
# Labels

Labels and annotations map names to texts. They are kept sorted by name, so two maps with the same
content are equal; names are compared by code point, which is also the order of their bytes.
-/
namespace PeerFirewall

/-- Texts by name, sorted by name. -/
structure Labels where
  entries : List (String × String)
  sorted : entries.Pairwise fun a b => a.1 < b.1
deriving DecidableEq, Repr

namespace Labels

/-- No labels. -/
def empty : Labels := ⟨[], .nil⟩

instance : Inhabited Labels := ⟨empty⟩

/-- Puts an entry into a sorted list, in place of one of the same name. -/
def insertEntry (name text : String) : List (String × String) → List (String × String)
  | [] => [(name, text)]
  | (other, kept) :: rest =>
    if name < other then (name, text) :: (other, kept) :: rest
    else if name = other then (name, text) :: rest
    else (other, kept) :: insertEntry name text rest

/-- A name in the list after an insertion is the inserted one or was there before. -/
theorem name_mem_insertEntry {name text : String} {entries : List (String × String)}
    {entry : String × String} (member : entry ∈ insertEntry name text entries) :
    entry.1 = name ∨ entry ∈ entries := by
  induction entries with
  | nil => simp_all [insertEntry]
  | cons head rest ih =>
    obtain ⟨other, kept⟩ := head
    unfold insertEntry at member
    split at member
    · rcases List.mem_cons.1 member with rfl | member
      · exact .inl rfl
      · exact .inr member
    · split at member
      · rcases List.mem_cons.1 member with rfl | member
        · exact .inl rfl
        · exact .inr (List.mem_cons_of_mem _ member)
      · rcases List.mem_cons.1 member with rfl | member
        · exact .inr List.mem_cons_self
        · exact (ih member).imp id (List.mem_cons_of_mem _)

/-- Insertion keeps the order. -/
theorem insertEntry_sorted {name text : String} {entries : List (String × String)}
    (sorted : entries.Pairwise fun a b => a.1 < b.1) :
    (insertEntry name text entries).Pairwise fun a b => a.1 < b.1 := by
  induction entries with
  | nil => simp [insertEntry]
  | cons head rest ih =>
    obtain ⟨other, kept⟩ := head
    have ⟨above, tail⟩ := List.pairwise_cons.1 sorted
    unfold insertEntry
    split
    · rename_i lower
      refine List.pairwise_cons.2 ⟨fun entry member => ?_, sorted⟩
      rcases List.mem_cons.1 member with rfl | member
      · exact lower
      · exact String.lt_trans lower (above entry member)
    · rename_i notLower
      split
      · rename_i same
        subst same
        exact List.pairwise_cons.2 ⟨above, tail⟩
      · rename_i different
        refine List.pairwise_cons.2 ⟨fun entry member => ?_, ih tail⟩
        rcases name_mem_insertEntry member with same | member
        · rw [same]
          exact Std.lt_of_le_of_ne (String.not_lt.1 notLower) (Ne.symm different)
        · exact above entry member

/-- Gives a name its text, whether or not it had one. -/
def insert (labels : Labels) (name text : String) : Labels :=
  ⟨insertEntry name text labels.entries, insertEntry_sorted labels.sorted⟩

/-- The text of a name. -/
def find? (labels : Labels) (name : String) : Option String :=
  (labels.entries.find? (·.1 = name)).map (·.2)

/-- Inserts entries one after the other. -/
def insertAll (labels : Labels) (entries : List (String × String)) : Labels :=
  entries.foldl (fun labels entry => labels.insert entry.1 entry.2) labels

/-- The labels of a list, the last of equal names counting. -/
def ofList (entries : List (String × String)) : Labels := empty.insertAll entries

/-- Labels as an object. -/
def encode (labels : Labels) : Json :=
  .obj (labels.entries.map fun entry => (entry.1, .str entry.2))

/-- Reads the members of an object of texts, the first fault first. -/
def decodeMembers : List (String × Json) → Except DecodeError (List (String × String))
  | [] => .ok []
  | (name, value) :: rest =>
    match Decoder.string value with
    | .error error => .error error
    | .ok text =>
      match decodeMembers rest with
      | .error error => .error error
      | .ok entries => .ok ((name, text) :: entries)

/-- Reads labels from an object. -/
def decode : Decoder Labels
  | .obj members => (decodeMembers members).map ofList
  | value => Decoder.mismatch value "a map"

end Labels

end PeerFirewall
