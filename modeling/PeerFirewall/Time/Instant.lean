import PeerFirewall.Text.Blank
import PeerFirewall.Time.Calendar

/-!
# Points in time

A point in time is written as RFC 3339 text in UTC, to the second or to the microsecond; what is
finer is cut off towards the past. `Instant.parse` reads such text with any offset, also where
components are separated by white space or have fewer digits. A leap second is kept: it is the
second before it, with a fraction of one second or more.
-/
namespace PeerFirewall.Time

/-- A point in time: whole seconds from the first of January 1970, and the fraction after them. The
fraction is below one second, or, in a leap second, below two. -/
structure Instant where
  seconds : Int
  nanoseconds : Nat
deriving DecidableEq, Repr, Inhabited

/-- Why a text names no point in time. -/
inductive TimeFault where
  | tooShort
  | invalid
  | outOfRange
  | tooLong
  /-- The calendar ends before the point in time is reached in UTC. -/
  | impossible
deriving DecidableEq, Repr

/-- The text of a fault. -/
def TimeFault.message : TimeFault → String
  | tooShort => "premature end of input"
  | invalid => "input contains invalid characters"
  | outOfRange => "input is out of range"
  | tooLong => "trailing input"
  | impossible => "no possible date and time matching input"

/-- A number with zeros before it up to a width. -/
def padded (width n : Nat) : String :=
  let digits := Nat.toDigits 10 n
  String.ofList (List.replicate (width - digits.length) '0' ++ digits)

/-- A year: four digits, with a sign and at least four digits outside the years 0 to 9999. -/
def yearText (year : Int) : String :=
  if 0 ≤ year ∧ year ≤ 9999 then padded 4 year.toNat
  else if year < 0 then "-" ++ padded 4 year.natAbs
  else "+" ++ padded 4 year.natAbs

namespace Instant

/-- The seconds of a day. -/
def secondsOfDay : Int := 86400

/-- The nanoseconds of a second. -/
def nanosecondsOfSecond : Nat := 1000000000

/-- One if the point in time lies in a leap second, else zero. -/
def leap (t : Instant) : Nat := if t.nanoseconds < nanosecondsOfSecond then 0 else 1

/-- Date and time of day, without fraction and offset. -/
def dateTimeText (t : Instant) : String :=
  let date := Date.ofDays (t.seconds / secondsOfDay)
  let time := t.seconds % secondsOfDay
  yearText date.year ++ "-" ++ padded 2 date.month.toNat ++ "-" ++ padded 2 date.day.toNat ++ "T" ++
    padded 2 (time / 3600).toNat ++ ":" ++ padded 2 (time % 3600 / 60).toNat ++ ":" ++
    padded 2 ((time % 60).toNat + t.leap)

/-- The text to the second. -/
def text (t : Instant) : String := t.dateTimeText ++ "Z"

/-- The text to the microsecond. -/
def microText (t : Instant) : String :=
  t.dateTimeText ++ "." ++ padded 6 (t.nanoseconds % nanosecondsOfSecond / 1000) ++ "Z"

/-- The point in time at the beginning of its second. -/
def wholeSecond (t : Instant) : Instant :=
  { t with nanoseconds := t.leap * nanosecondsOfSecond }

/-- The nanoseconds since the first of January 1970. -/
def totalNanoseconds (t : Instant) : Int := t.seconds * 1000000000 + t.nanoseconds

/-- The point in time that many seconds later. -/
def plus (t : Instant) (seconds : Int) : Instant := { t with seconds := t.seconds + seconds }

/-- Whether one point in time is before another; a leap second is before the second after it. -/
def before (a b : Instant) : Bool :=
  a.seconds < b.seconds || (a.seconds = b.seconds && a.nanoseconds < b.nanoseconds)

end Instant

namespace InstantReader

/-- The value of a run of decimal digits. -/
def digitsValue (digits : List Char) : Nat :=
  digits.foldl (fun n c => 10 * n + (c.toNat - '0'.toNat)) 0

/-- The text after white space. -/
def skipSpace (text : List Char) : List Char := text.dropWhile Text.isBlank

/-- Reads a number of one digit up to that many, which begins the text. -/
def digits (most : Nat) (text : List Char) : Except TimeFault (List Char × List Char) :=
  let ds := (text.takeWhile Char.isDigit).take most
  match text, ds with
  | [], _ => .error .tooShort
  | _, [] => .error .invalid
  | _, _ => .ok (ds, text.drop ds.length)

/-- Takes a number for a component of a date or time, within the bounds of the component. -/
def within (low high : Int) (value : Int) (rest : List Char) :
    Except TimeFault (Int × List Char) :=
  if low ≤ value ∧ value ≤ high then .ok (value, rest) else .error .outOfRange

/-- Reads a component of one or two digits. -/
def component (low high : Int) (text : List Char) : Except TimeFault (Int × List Char) := do
  let (ds, rest) ← digits 2 (skipSpace text)
  within low high (digitsValue ds) rest

/-- Takes a number for a year of 32 bits. -/
def yearWithin : Int → List Char → Except TimeFault (Int × List Char) :=
  within (-2147483648) 2147483647

/-- Reads a year: up to four digits, or a sign and any number of digits. -/
def year (text : List Char) : Except TimeFault (Int × List Char) :=
  match skipSpace text with
  | '-' :: rest => do
    let (ds, rest) ← digits rest.length rest
    yearWithin (-(digitsValue ds : Int)) rest
  | '+' :: rest => do
    let (ds, rest) ← digits rest.length rest
    yearWithin (digitsValue ds) rest
  | rest => do
    let (ds, rest) ← digits 4 rest
    yearWithin (digitsValue ds) rest

/-- Reads one of the given characters. -/
def one (allowed : List Char) : List Char → Except TimeFault (List Char)
  | [] => .error .tooShort
  | c :: rest => if c ∈ allowed then .ok rest else .error .invalid

/-- Reads a mark between two components, which white space may stand before. -/
def mark (c : Char) (text : List Char) : Except TimeFault (List Char) := one [c] (skipSpace text)

/-- Reads the fraction of a second, if there is one, in nanoseconds; what is finer is dropped. -/
def fraction : List Char → Except TimeFault (Nat × List Char)
  | '.' :: rest => do
    let (ds, rest) ← digits 9 rest
    let nine := ds ++ List.replicate (9 - ds.length) '0'
    return (digitsValue nine, rest.dropWhile Char.isDigit)
  | text => .ok (0, text)

/-- Reads two digits. A text of fewer than two bytes is too short for them. -/
def twoDigits : List Char → Except TimeFault (Nat × List Char)
  | [] => .error .tooShort
  | [c] => .error (if c.utf8Size < 2 then .tooShort else .invalid)
  | a :: b :: rest =>
    if a.isDigit ∧ b.isDigit then .ok (digitsValue [a, b], rest) else .error .invalid

/-- Reads hours and minutes, with colons and white space between them, as seconds. -/
def hoursAndMinutes (text : List Char) : Except TimeFault (Int × List Char) := do
  let (hours, rest) ← twoDigits text
  let (minutes, rest) ← twoDigits (rest.dropWhile fun c => c = ':' || Text.isBlank c)
  if minutes > 59 then throw .outOfRange
  return (hours * 3600 + minutes * 60, rest)

/-- Whether the text begins with those letters, in either case. -/
def beginsWith : (letters text : List Char) → Bool
  | [], _ => true
  | _ :: _, [] => false
  | l :: letters, c :: text => c.toLower = l && beginsWith letters text

/-- Reads an offset from UTC, in seconds. The minus may be the hyphen or the mathematical sign. -/
def offset (text : List Char) : Except TimeFault (Int × List Char) :=
  if beginsWith ['u', 't', 'c'] text then .ok (0, text.drop 3)
  else
    match text with
    | [] => .error .tooShort
    | c :: rest =>
      if c = 'Z' ∨ c = 'z' then .ok (0, rest)
      else if c = '+' then hoursAndMinutes rest
      else if c = '-' ∨ c = '\u2212' then do
        let (seconds, rest) ← hoursAndMinutes rest
        return (-seconds, rest)
      else .error .invalid

/-- The first year of the calendar. -/
def firstYear : Int := -262143

/-- The last year of the calendar. -/
def lastYear : Int := 262142

/-- Whether the calendar reaches a year. -/
def inCalendar (year : Int) : Bool := firstYear ≤ year && year ≤ lastYear

/-- A date, a time of day and an offset as a point in time. -/
def assemble (date : Date) (time : Int) (nanoseconds : Nat) (offset : Int) :
    Except TimeFault Instant :=
  if ¬ (date.Valid ∧ inCalendar date.year) ∨ offset.natAbs ≥ 86400 then .error .outOfRange
  else
    let seconds := date.toDays * Instant.secondsOfDay + time - offset
    if inCalendar (Date.ofDays (seconds / Instant.secondsOfDay)).year then
      .ok ⟨seconds, nanoseconds⟩
    else .error .impossible

end InstantReader

/-- Reads RFC 3339 text. -/
def Instant.parse (text : String) : Except TimeFault Instant := do
  let (year, rest) ← InstantReader.year text.toList
  let rest ← InstantReader.mark '-' rest
  let (month, rest) ← InstantReader.component 1 12 rest
  let rest ← InstantReader.mark '-' rest
  let (day, rest) ← InstantReader.component 1 31 rest
  let rest ← InstantReader.one ['T', 't', ' '] rest
  let (hour, rest) ← InstantReader.component 0 23 rest
  let rest ← InstantReader.mark ':' rest
  let (minute, rest) ← InstantReader.component 0 59 rest
  let rest ← InstantReader.mark ':' rest
  let (second, rest) ← InstantReader.component 0 60 rest
  let (nanoseconds, rest) ← InstantReader.fraction rest
  let (offset, rest) ← InstantReader.offset (InstantReader.skipSpace rest)
  if !(InstantReader.skipSpace rest).isEmpty then throw .tooLong
  let (second, nanoseconds) :=
    if second = 60 then (59, nanoseconds + nanosecondsOfSecond) else (second, nanoseconds)
  InstantReader.assemble ⟨year, month, day⟩ (hour * 3600 + minute * 60 + second) nanoseconds offset

end PeerFirewall.Time
