import Mathlib.Data.List.Forall2
import PeerFirewall.Proofs.Net.ReadBack
import PeerFirewall.Proofs.Text.Items
import PeerFirewall.Service.Arguments

/-!
# Lists on the command line

Private subnets and groups are given as lists. Both readers obey the same laws
(`Arguments.ReadsLists`), because they read the items of the list one by one, and because each of
their values is read back from its text: a list of two lists is read as the two are, blank pieces
are passed over, and what is written with commas in between is read back. No list with a network of
version 6 in it is read.
-/
namespace PeerFirewall

/-! ### Texts that can be items -/

/-- White space is no digit. -/
theorem Net.isNoDigit_of_isBlank {c : Char} (blank : Text.isBlank c) : IsNoDigit c := by
  have none : ∀ digit : Fin 17, Text.isBlank digit.val.digitChar = false := by decide
  refine isNoDigit_of_small fun digit same => ?_
  rw [← same, none digit] at blank
  cases blank

/-- The text of a network can be an item. -/
theorem Net.Cidr.isItem_text (network : Cidr) : Text.IsItem network.text where
  ne_empty empty := by
    have slash : '/' ∈ network.text.toList := by cases network <;> simp [text]
    rw [empty] at slash
    cases slash
  each c isIn := by
    constructor
    · rintro rfl
      exact notMem_text (isNoDigit_of_small (by decide)) (by decide) network isIn
    · refine Bool.eq_false_iff.2 fun blank => ?_
      have noMark : c ∉ [':', '.', '/'] := by
        have filled : ∀ mark ∈ [':', '.', '/'], Text.isBlank mark = false :=
          List.forall_mem_cons.2 ⟨rfl, List.forall_mem_cons.2
            ⟨rfl, List.forall_mem_singleton.2 rfl⟩⟩
        intro isMark
        rw [filled c isMark] at blank
        cases blank
      exact notMem_text (isNoDigit_of_isBlank blank) noMark network isIn

/-- The name of a group can be an item. -/
theorem Group.isItem_name (group : Group) : Text.IsItem group.name := by
  cases group <;> decide

/-- A group is read back from its name. -/
theorem Group.parse?_name (group : Group) : parse? group.name = some group := by
  cases group <;> decide +kernel

namespace Arguments

variable {α : Type} {read : String → Except String α}

/-! ### One item after the other -/

/-- Items behind others are read after them. -/
theorem readItems_append (items others : List String) :
    readItems read (items ++ others) = do
      let first ← readItems read items
      let second ← readItems read others
      return first ++ second := by
  induction items with
  | nil =>
    change readItems read others = (readItems read others).bind fun second => .ok ([] ++ second)
    cases readItems read others <;> rfl
  | cons item rest ih =>
    rw [List.cons_append, readItems, readItems, ih]
    cases read item with
    | error message => rfl
    | ok a =>
      cases readItems read rest with
      | error message => rfl
      | ok as => cases readItems read others <;> rfl

/-- Items are read just where each of them is. -/
theorem readItems_eq_ok_iff {items : List String} {values : List α} :
    readItems read items = .ok values ↔
      List.Forall₂ (fun item a => read item = .ok a) items values := by
  induction items generalizing values with
  | nil => simp [readItems, eq_comm]
  | cons item rest ih =>
    rw [List.forall₂_cons_left_iff, readItems]
    simp only [← ih]
    cases read item with
    | error message => simp
    | ok a => cases readItems read rest <;> simp [Except.map, eq_comm]

/-- Where items are read, each of them is. -/
theorem read_of_readItems {items : List String} {values : List α}
    (reads : readItems read items = .ok values) :
    ∀ item ∈ items, ∃ a, read item = .ok a := by
  have each := readItems_eq_ok_iff.1 reads
  clear reads
  induction each with
  | nil => exact List.forall_mem_nil _
  | cons first _ ih => exact List.forall_mem_cons.2 ⟨⟨_, first⟩, ih⟩

/-- The laws of a reader of lists, of which some values are written as they are printed. -/
structure ReadsLists (read : String → Except String (List α)) (print : α → String)
    (sound : α → Prop) : Prop where
  /-- A list of two lists is read as the first one and the second one are; if the first one fails it
  fails so, else as the second one does. -/
  append : ∀ text other, read (text ++ "," ++ other) = do
    let first ← read text
    let second ← read other
    return first ++ second
  /-- White space is a list without values. -/
  blank : ∀ text, Text.IsBlank text → read text = .ok []
  /-- A blank piece makes no difference, wherever it is put in. -/
  inserted : ∀ text other piece, Text.IsBlank piece →
    read (text ++ "," ++ piece ++ "," ++ other) = read (text ++ "," ++ other) ∧
      read (piece ++ "," ++ text) = read text ∧ read (text ++ "," ++ piece) = read text
  /-- Values that are laid out are read back. -/
  readsBack : ∀ values pieces, (∀ value ∈ values, sound value) →
    Text.Lays pieces (values.map print) → read (",".intercalate pieces) = .ok values

/-- A reader obeys the laws if it reads item by item and reads each value back. -/
theorem readsLists_of_items {print : α → String} {sound : α → Prop}
    (isItem : ∀ value, sound value → Text.IsItem (print value))
    (reads : ∀ value, sound value → read (print value) = .ok value) :
    ReadsLists (fun text => readItems read (Text.listItems text)) print sound where
  append text other := by rw [Text.listItems_append, readItems_append]
  blank text blank := by rw [Text.listItems_blank blank, readItems]
  inserted text other piece blank := by
    simp only [Text.listItems_append, Text.listItems_blank blank, List.append_nil, List.nil_append,
      and_self]
  readsBack values pieces sounds lays := by
    rw [lays.listItems, readItems_eq_ok_iff, List.forall₂_map_left_iff, List.forall₂_same]
    · exact fun value isIn => reads value (sounds value isIn)
    · rintro _ isIn
      obtain ⟨value, isValue, rfl⟩ := List.mem_map.1 isIn
      exact isItem value (sounds value isValue)

/-! ### Subnets and groups -/

/-- A network of version 4 is read back as a subnet. -/
theorem readSubnet_text {network : Net.Cidr} (isV4 : network.isV4 = true) :
    readSubnet network.text = .ok network := by
  rw [readSubnet, Net.Cidr.parse?_text isV4]
  exact if_pos isV4

/-- A list with an item that is no subnet is not read. -/
theorem readSubnets_refuses {text item : String} (isItem : item ∈ Text.listItems text)
    (refuses : ∀ network, readSubnet item ≠ .ok network) :
    ∃ message, readSubnets text = .error message := by
  cases isRead : readSubnets text with
  | error message => exact ⟨message, rfl⟩
  | ok networks =>
    obtain ⟨network, reads⟩ := read_of_readItems isRead item isItem
    exact absurd reads (refuses network)

/-- A text that reads as no network of version 4 is no subnet. -/
theorem readSubnet_ne_ok {item : String}
    (otherVersion : ∀ network, Net.Cidr.parse? item = some network → network.isV4 = false)
    (network : Net.Cidr) : readSubnet item ≠ .ok network := by
  unfold readSubnet
  cases parsed : Net.Cidr.parse? item with
  | none => exact nofun
  | some other => simp [otherVersion other parsed]

/-- The lists of subnets and of groups obey the laws: those of subnets for the networks of version
4, those of groups for all groups. A list of subnets with an item that reads as a network of version
6 is not read, nor is one with a piece, wherever it stands, that is the text of such a network with
any white space around it. -/
theorem readLists_lawful :
    ReadsLists readSubnets Net.Cidr.text (fun network => network.isV4 = true) ∧
    ReadsLists readGroups Group.name (fun _ => True) ∧
    (∀ text item network, item ∈ Text.listItems text → Net.Cidr.parse? item = some network →
      network.isV4 = false → ∃ message, readSubnets text = .error message) ∧
    ∀ (pieces : List String) (before after : String) (network : Net.Cidr), Text.IsBlank before →
      Text.IsBlank after → before ++ network.text ++ after ∈ pieces → network.isV4 = false →
      ∃ message, readSubnets (",".intercalate pieces) = .error message := by
  refine ⟨readsLists_of_items (fun network _ => network.isItem_text) fun _ => readSubnet_text,
    readsLists_of_items (fun group _ => group.isItem_name) fun group _ => ?_, ?_, ?_⟩
  · rw [readGroup, group.parse?_name]
  · intro text item network isItem parsed isV6
    refine readSubnets_refuses isItem (readSubnet_ne_ok fun other parsedToo => ?_)
    cases parsed.symm.trans parsedToo
    exact isV6
  · intro pieces before after network blankBefore blankAfter isPiece isV6
    have isItem : network.text ∈ Text.listItems (",".intercalate pieces) := by
      rw [Text.listItems_intercalate, List.mem_flatMap]
      refine ⟨_, isPiece, ?_⟩
      rw [Text.listItems_padded blankBefore network.isItem_text blankAfter]
      exact List.mem_singleton_self _
    exact readSubnets_refuses isItem
      (readSubnet_ne_ok fun _ => Net.Cidr.isV4_of_parse?_text isV6)

/-- Lists with blank pieces before, between and behind items are read, and one with a network of
version 6 in the middle is not. -/
theorem readLists_lawful_mixed :
    let private8 : Net.Cidr := .v4 ⟨10, 0, 0, 0⟩ 8
    let private16 : Net.Cidr := .v4 ⟨192, 168, 0, 1⟩ 16
    let local8 : Net.Cidr := .v6 ⟨[0xfd00, 0, 0, 0, 0, 0, 0, 0], rfl⟩ 8
    readSubnets (",".intercalate
        ["", " " ++ private8.text ++ "\t", "\u3000", "" ++ private16.text ++ " "]) =
      .ok [private8, private16] ∧
    readGroups (",".intercalate
        ["\n" ++ Group.leaf.name ++ "", "", "" ++ Group.offloaded.name ++ "", " "]) =
      .ok [.leaf, .offloaded] ∧
    local8.text = "fd00::/8" ∧
    ∃ message, readSubnets (",".intercalate
      ["10.0.0.0/8", " " ++ local8.text ++ "", "10.0.0.0/40"]) = .error message := by
  intro private8 private16 local8
  obtain ⟨subnets, groups, -, refuses⟩ := readLists_lawful
  have blank : Text.IsBlank "" := by decide
  have space : Text.IsBlank " " := by decide
  have tab : Text.IsBlank "\t" := by decide
  have newline : Text.IsBlank "\n" := by decide
  have wide : Text.IsBlank "\u3000" := by decide
  refine ⟨subnets.readsBack _ _ (by decide) ?_, groups.readsBack _ _ (fun _ _ => trivial) ?_,
    by decide +kernel, refuses _ " " "" local8 space blank (by simp) rfl⟩
  · exact .blank blank (.item space tab (.blank wide (.item blank space .nil)))
  · exact .item newline blank (.blank blank (.item blank blank (.blank space .nil)))

end Arguments

end PeerFirewall
