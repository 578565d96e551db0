/-!
# Numbers with a fraction or an exponent

Such a number is kept as a double-precision number. No field here accepts one, so it only ever
appears in a message that refuses it. Its text has the fewest digits that tell the number from all
other doubles and, of those, the digits nearest to it; it is positional from `1e-5` up to `1e16`
and has a signed exponent elsewhere.

A decimal is read in two roundings or more: its digits, as far as 64 bits hold them, are rounded to
a double, which is then multiplied or divided by the double nearest to the power of ten. The result
may differ from the nearest double in its last bit. All arithmetic is on whole numbers and exact
but for the roundings that are named.
-/
namespace PeerFirewall

/-- A number `significand · 2 ^ exponent` as a double holds it. -/
structure Magnitude where
  significand : Nat
  exponent : Int
deriving DecidableEq, Repr, Inhabited

/-- A double-precision number. -/
structure Double where
  negative : Bool
  magnitude : Magnitude
deriving DecidableEq, Repr, Inhabited

namespace Magnitude

/-- The quotient rounded to a whole number, a half to the even neighbour. -/
def roundDiv (num den : Nat) : Nat :=
  let floor := num / den
  let rest := 2 * (num % den)
  if rest < den then floor
  else if rest = den then floor + floor % 2
  else floor + 1

/-- The least exponent of a double. -/
def leastExponent : Int := -1074

/-- Zero. -/
def zero : Magnitude := ⟨0, leastExponent⟩

/-- The double nearest to a quotient, or `none` where it overflows. -/
def nearest (num den : Nat) : Option Magnitude :=
  let guess : Int := (num.log2 : Int) - den.log2 - 53
  let exponent := max guess leastExponent
  let at_ (e : Int) : Nat := roundDiv (num * Nat.pow 2 (-e).toNat) (den * Nat.pow 2 e.toNat)
  let first := at_ exponent
  let (significand, exponent) :=
    if first < Nat.pow 2 53 then (first, exponent) else (at_ (exponent + 1), exponent + 1)
  let (significand, exponent) :=
    if significand < Nat.pow 2 53 then (significand, exponent) else (Nat.pow 2 52, exponent + 1)
  if significand = 0 then some zero
  else if exponent > 971 then none
  else some ⟨significand, exponent⟩

/-- The number as a quotient. -/
def quotient (value : Magnitude) : Nat × Nat :=
  (value.significand * Nat.pow 2 value.exponent.toNat, Nat.pow 2 (-value.exponent).toNat)

/-- The double nearest to a power of ten. -/
def powerOfTen (power : Nat) : Magnitude := (nearest (Nat.pow 10 power) 1).getD zero

/-- The product with a power of ten, rounded, or `none` where it overflows. -/
def timesPower (value : Magnitude) (power : Nat) : Option Magnitude :=
  let (num, den) := value.quotient
  let (powerNum, powerDen) := (powerOfTen power).quotient
  nearest (num * powerNum) (den * powerDen)

/-- The quotient by a power of ten, rounded. -/
def overPower (value : Magnitude) (power : Nat) : Magnitude :=
  let (num, den) := value.quotient
  let (powerNum, powerDen) := (powerOfTen power).quotient
  (nearest (num * powerDen) (den * powerNum)).getD zero

/-- The greatest power of ten that is a double. -/
def greatestPower : Nat := 308

/-- The number `digits · 10 ^ exponent` as it is read, or `none` where it is beyond all doubles. A
small one is divided in two steps; below a double power of ten nothing is left. -/
def ofDecimal (digits : Nat) (exponent : Int) : Option Magnitude :=
  let rounded := (nearest digits 1).getD zero
  if exponent > greatestPower then (if digits = 0 then some zero else none)
  else if 0 ≤ exponent then rounded.timesPower exponent.toNat
  else if -greatestPower ≤ exponent then some (rounded.overPower (-exponent).toNat)
  else if -(2 * greatestPower) ≤ exponent then
    some ((rounded.overPower greatestPower).overPower (-exponent - greatestPower).toNat)
  else some zero

/-- The digits and the exponent of the decimal on the grid of `10 ^ place` that is nearest to the
double among all that are closer to it than to any other, if that grid has one. -/
def onGrid (value : Magnitude) (place : Int) : Option Nat :=
  -- Quarters of a unit in the last place, as the quotient `quarters / den`.
  let scale := value.exponent - 2
  let quarters (n : Nat) : Nat := n * Nat.pow 2 scale.toNat * Nat.pow 10 (-place).toNat
  let den := Nat.pow 2 (-scale).toNat * Nat.pow 10 place.toNat
  let narrow := value.significand = Nat.pow 2 52 && value.exponent > leastExponent
  let low := quarters (4 * value.significand - (if narrow then 1 else 2))
  let high := quarters (4 * value.significand + 2)
  let middle := quarters (4 * value.significand)
  let closed := value.significand % 2 = 0
  let inside (d : Nat) : Bool :=
    if closed then low ≤ d * den && d * den ≤ high else low < d * den && d * den < high
  let below := middle / den
  let above := below + 1
  if inside below && inside above then
    some (if 2 * (middle % den) ≤ den then below else above)
  else if inside below then some below
  else if inside above then some above
  else none

/-- Searches the grids from the coarsest on. -/
def firstGrid (value : Magnitude) : Nat → Int → Option (Nat × Int)
  | 0, _ => none
  | fuel + 1, place =>
    match onGrid value place with
    | some 0 | none => firstGrid value fuel (place - 1)
    | some d => some (d, place)

/-- The fewest decimal digits that stand for the double, with their exponent. -/
def shortest (value : Magnitude) : Nat × Int :=
  let size : Int := (value.significand.log2 : Int) + value.exponent
  -- At least the decimal logarithm of the value, by at most two.
  let top := size * 30103 / 100000 + 2
  (firstGrid value 24 top).getD (0, 0)

/-- Drops the zeros at the end of the digits. -/
def withoutTrailingZeros : Nat → Nat → Int → Nat × Int
  | 0, d, e => (d, e)
  | fuel + 1, d, e =>
    if d ≠ 0 ∧ d % 10 = 0 then withoutTrailingZeros fuel (d / 10) (e + 1) else (d, e)

/-- Lays out positive digits with their exponent. -/
def layout (digits : Nat) (exponent : Int) : String :=
  let ds := Nat.toDigits 10 digits
  let length : Int := ds.length
  let point := length + exponent
  let zeros (n : Int) : String := String.ofList (List.replicate n.toNat '0')
  if 0 ≤ exponent ∧ point ≤ 16 then String.ofList ds ++ zeros exponent ++ ".0"
  else if 0 < point ∧ point ≤ 16 then
    String.ofList (ds.take point.toNat) ++ "." ++ String.ofList (ds.drop point.toNat)
  else if -5 < point ∧ point ≤ 0 then "0." ++ zeros (-point) ++ String.ofList ds
  else
    let fraction := if ds.length = 1 then "" else "." ++ String.ofList (ds.drop 1)
    let sign := if 0 < point then "+" else "-"
    String.ofList (ds.take 1) ++ fraction ++ "e" ++ sign ++ toString (point - 1).natAbs

/-- The text of a magnitude. -/
def text (value : Magnitude) : String :=
  if value.significand = 0 then "0.0"
  else
    let (digits, exponent) := shortest value
    let (digits, exponent) := withoutTrailingZeros 24 digits exponent
    layout digits exponent

end Magnitude

/-- The text of a double. -/
def Double.text (value : Double) : String :=
  (if value.negative then "-" else "") ++ value.magnitude.text

end PeerFirewall
