import PeerFirewall.Json.Decoder

/-!
# Named choices

A choice among a few values is written as the name of the value. `Choice.decode_encode`: no two
values have the same name, so a name says which value was meant.
-/
namespace PeerFirewall

/-- A type of a few values that are written by name. -/
class Choice (α : Type) where
  /-- The values, in the order in which messages list their names. -/
  all : List α
  /-- The name of a value. -/
  name : α → String
  /-- Every value is found by its name. -/
  choose_name : ∀ value,
    Decoder.choose (all.map fun other => (name other, other)) (name value) = .ok value

namespace Choice

variable {α : Type} [Choice α]

/-- The names of the values. -/
def names (α : Type) [Choice α] : List String := (all : List α).map name

/-- A value as its name. -/
def encode (value : α) : Json := .str (name value)

/-- Reads a value by its name. -/
def decode : Decoder α := Decoder.choice (all.map fun value => (name value, value))

/-- A value is read back from its name. -/
@[simp] theorem decode_encode (value : α) : decode (encode value) = .ok value := choose_name value

end Choice

end PeerFirewall
