import PeerFirewall.Net.Cidr

/-!
# The characters of the text of a network

The text of a network consists of digits, colons, points and a slash. So it never looks like the
reference to a set, which begins with an at sign. Colons are in the texts of version 6 and in no
others, so the text of a network says which version it is of (`Cidr.isV4_of_text`).
-/
namespace PeerFirewall.Net

/-- Whether a character is no digit of any number. -/
def IsNoDigit (c : Char) : Prop := ∀ n : Nat, n.digitChar ≠ c

/-- A character is no digit if it is none of the sixteen digits, nor what stands for others. -/
theorem isNoDigit_of_small {c : Char} (none : ∀ digit : Fin 17, digit.val.digitChar ≠ c) :
    IsNoDigit c := by
  intro n
  by_cases small : n < 16
  · exact none ⟨n, by omega⟩
  · have starred : n.digitChar = Nat.digitChar 16 := by
      unfold Nat.digitChar
      repeat rw [if_neg (by omega)]
    rw [starred]
    exact none 16

/-- An at sign is no digit. -/
theorem isNoDigit_at : IsNoDigit '@' := isNoDigit_of_small (by decide)

/-- A colon is no digit. -/
theorem isNoDigit_colon : IsNoDigit ':' := isNoDigit_of_small (by decide)

section

variable {c : Char} (noDigit : IsNoDigit c)
include noDigit

/-- No number has a character among its digits that is no digit. -/
theorem notMem_toDigits {base : Nat} (proper : 1 < base) (n : Nat) :
    c ∉ Nat.toDigits base n := by
  induction n using Nat.strongRecOn with
  | ind n ih =>
    rw [Nat.toDigits_eq_if proper]
    split
    · exact fun member => noDigit n (List.mem_singleton.1 member).symm
    · rename_i large
      have smaller : n / base < n := Nat.div_lt_self (by omega) proper
      intro member
      rcases List.mem_append.1 member with higher | last
      · exact ih _ smaller higher
      · exact noDigit _ (List.mem_singleton.1 last).symm

/-- The decimal text of a number has no character that is no digit. -/
theorem notMem_decimalText (n : Nat) : c ∉ (decimalText n).toList := by
  simpa [decimalText] using notMem_toDigits noDigit (by decide) n

/-- The text of an address of version 4 has digits and points only. -/
theorem Ipv4.notMem_text (noPoint : c ≠ '.') (address : Ipv4) : c ∉ address.text.toList := by
  simp [text, notMem_decimalText noDigit, noPoint]

/-- The text of a group has digits only. -/
theorem Ipv6.notMem_groupText (group : UInt16) : c ∉ (groupText group).toList := by
  simpa [groupText] using notMem_toDigits noDigit (by decide) group.toNat

end

/-- Numbers with the same text are the same. -/
theorem toString_injective : Function.Injective (toString : Nat → String) := by
  intro left right same
  rw [Nat.toString_eq_ofList_toDigits, Nat.toString_eq_ofList_toDigits, String.ofList_inj] at same
  rw [← Nat.ofDigitChars_ten_toDigits (n := left), same, Nat.ofDigitChars_ten_toDigits]

namespace Ipv6

section

variable {c : Char} (noDigit : IsNoDigit c) (noColon : c ≠ ':')
include noDigit noColon

/-- The text of some groups has digits and colons only. -/
theorem notMem_groupsText (gs : List UInt16) : c ∉ (groupsText gs).toList := by
  unfold groupsText
  induction gs with
  | nil => simp
  | cons group rest ih => cases rest <;> simp_all [notMem_groupText noDigit]

/-- The text of an address of version 6 has digits, colons and points only. -/
theorem notMem_text (noPoint : c ≠ '.') (address : Ipv6) : c ∉ address.text.toList := by
  have noF : c ≠ 'f' := fun same => noDigit 15 same.symm
  unfold text
  split
  · simp [notMem_decimalText noDigit, noPoint, noColon, noF]
  · dsimp only
    split <;> simp [notMem_groupsText noDigit noColon, noColon]

end

/-- The text of two groups or more has a colon. -/
theorem colon_mem_groupsText {gs : List UInt16} (several : 2 ≤ gs.length) :
    ':' ∈ (groupsText gs).toList := by
  match gs with
  | first :: second :: rest => simp [groupsText]

/-- The text of an address of version 6 has a colon. -/
theorem colon_mem_text (address : Ipv6) : ':' ∈ address.text.toList := by
  have several := address.length_eq
  unfold text
  split
  · simp
  · dsimp only
    split
    · simp
    · exact colon_mem_groupsText (by omega)

end Ipv6

namespace Cidr

/-- The text of a network has digits, colons, points and slashes only. -/
theorem notMem_text {c : Char} (noDigit : IsNoDigit c) (noMark : c ∉ [':', '.', '/'])
    (network : Cidr) : c ∉ network.text.toList := by
  obtain ⟨noColon, noPoint, noSlash⟩ : c ≠ ':' ∧ c ≠ '.' ∧ c ≠ '/' := by simpa using noMark
  cases network with
  | v4 address length =>
    simp [text, Ipv4.notMem_text noDigit noPoint, notMem_decimalText noDigit, noSlash]
  | v6 address length =>
    simp [text, Ipv6.notMem_text noDigit noColon noPoint, notMem_decimalText noDigit, noSlash]

/-- The text of a network has no at sign. -/
theorem at_notMem_text (network : Cidr) : '@' ∉ network.text.toList :=
  notMem_text isNoDigit_at (by decide) network

/-- The text of a network has a colon just where the network is of version 6. -/
theorem colon_mem_text_iff (network : Cidr) :
    ':' ∈ network.text.toList ↔ network.isV4 = false := by
  cases network with
  | v4 address length =>
    simp [text, isV4, Ipv4.notMem_text isNoDigit_colon, notMem_decimalText isNoDigit_colon]
  | v6 address length => simp [text, isV4, Ipv6.colon_mem_text]

/-- Networks with the same text are of the same version. -/
theorem isV4_of_text {network other : Cidr} (same : network.text = other.text) :
    network.isV4 = other.isV4 := by
  have alike : network.isV4 = false ↔ other.isV4 = false := by
    rw [← colon_mem_text_iff, same, colon_mem_text_iff]
  simpa using alike

end Cidr

end PeerFirewall.Net
