import PeerFirewall.Double
import PeerFirewall.Text.Letter

/-!
# Durations

A duration is written as decimal numbers with units behind them, all added up: `1h30m`, `2.5s`. A
sign in front does not count. A zero needs no unit, and nothing at all is zero.
-/
namespace PeerFirewall.Time

/-- A length of time. -/
structure Duration where
  nanoseconds : Nat
deriving DecidableEq, Repr

/-- Why a text is no duration. -/
inductive DurationFault where
  | noUnit
  | badUnit
  | noNumber
  | badNumber
  /-- A number behind the first one is negative. -/
  | negative
  /-- A number is too large for a duration. -/
  | tooLarge
  /-- The sum is too large for a duration. -/
  | sumTooLarge
deriving DecidableEq, Repr

namespace DurationFault

/-- The units, as a message lists them. -/
def units : String := "expected one of 'ns', 'us', '\u00b5s', 'ms', 's', 'm', or 'h'"

/-- The text of a fault. -/
def message : DurationFault → String
  | noUnit => "missing a unit: " ++ units
  | badUnit => "invalid unit: " ++ units
  | noNumber => "invalid floating-point number: cannot parse float from empty string"
  | badNumber => "invalid floating-point number: invalid float literal"
  | negative => "cannot convert float seconds to Duration: value is negative"
  | tooLarge => "cannot convert float seconds to Duration: value is either too big or NaN"
  | sumTooLarge => "overflow when adding durations"

/-- Whether the text is well formed but names no length of time. -/
def isImpossible : DurationFault → Bool
  | negative | tooLarge | sumTooLarge => true
  | noUnit | badUnit | noNumber | badNumber => false

end DurationFault

namespace Duration

/-- No time. -/
def zero : Duration := ⟨0⟩

/-- The least number of seconds that is too large for a duration. -/
def secondsLimit : Nat := 18446744073709551616

/-- The nanoseconds of a second. -/
def perSecond : Nat := 1000000000

/-- Two durations together. -/
def plus (a b : Duration) : Except DurationFault Duration :=
  let sum := a.nanoseconds + b.nanoseconds
  if sum / perSecond < secondsLimit then .ok ⟨sum⟩ else .error .sumTooLarge

/-- The seconds of a unit, as a quotient. -/
def unit? (name : List Char) : Option (Nat × Nat) :=
  match name with
  | ['n', 's'] => some (1, 1000000000)
  | ['u', 's'] | ['\u00b5', 's'] | ['\u03bc', 's'] => some (1, 1000000)
  | ['m', 's'] => some (1, 1000)
  | ['s'] => some (1, 1)
  | ['m'] => some (60, 1)
  | ['h'] => some (3600, 1)
  | _ => none

/-- The value of decimal digits. -/
def digitsValue (digits : List Char) : Nat :=
  digits.foldl (fun n c => 10 * n + (c.toNat - '0'.toNat)) 0

/-- Reads a decimal number without sign: digits, of which a point may stand before, between or
behind. -/
def magnitude (text : List Char) : Except DurationFault (Option Magnitude) :=
  let whole := text.takeWhile Char.isDigit
  let rest := text.drop whole.length
  let fraction := rest.drop 1
  if (rest.isEmpty ∨ (rest.head? = some '.' ∧ fraction.all Char.isDigit)) ∧
      ¬ (whole.isEmpty ∧ fraction.isEmpty) then
    .ok (Magnitude.nearest (digitsValue (whole ++ fraction)) (Nat.pow 10 fraction.length))
  else .error .badNumber

/-- Reads a decimal number: whether it has a minus, and the nearest double; none beyond all
doubles. -/
def number (text : List Char) : Except DurationFault (Bool × Option Magnitude) :=
  match text with
  | [] => .error .noNumber
  | '-' :: rest => (magnitude rest).map (true, ·)
  | '+' :: rest => (magnitude rest).map (false, ·)
  | rest => (magnitude rest).map (false, ·)

/-- So many of a unit, rounded to the nanosecond; the seconds are rounded to a double before. -/
def scaled (unit : Nat × Nat) : Bool × Option Magnitude → Except DurationFault Duration
  | (_, none) => .error .tooLarge
  | (negative, some value) =>
    let (unitNum, unitDen) := ((Magnitude.nearest unit.1 unit.2).getD .zero).quotient
    let (num, den) := value.quotient
    match Magnitude.nearest (num * unitNum) (den * unitDen) with
    | none => .error (if negative then .negative else .tooLarge)
    | some seconds =>
      let (num, den) := seconds.quotient
      if negative ∧ num ≠ 0 then .error .negative
      else if num / den < secondsLimit then .ok ⟨Magnitude.roundDiv (num * perSecond) den⟩
      else .error .tooLarge

/-- Adds the numbers with units of a text, as many as the first argument allows. -/
def sum : Nat → Duration → List Char → Except DurationFault Duration
  | 0, total, _ | _, total, [] | _, total, ['0'] => .ok total
  | fuel + 1, total, text =>
    let amount := text.takeWhile fun c => !Text.isLetter c
    let behind := text.drop amount.length
    let name := behind.takeWhile Text.isLetter
    if behind.isEmpty then .error .noUnit
    else
      match number amount, unit? name with
      | .error fault, _ => .error fault
      | .ok _, none => .error .badUnit
      | .ok amount, some unit => do
        let total ← total.plus (← scaled unit amount)
        sum fuel total (behind.drop name.length)

/-- Reads a duration. -/
def parse (text : String) : Except DurationFault Duration :=
  let unsigned := (text.toList.dropWhile (· = '+')).dropWhile (· = '-')
  sum unsigned.length zero unsigned

end Duration

end PeerFirewall.Time
