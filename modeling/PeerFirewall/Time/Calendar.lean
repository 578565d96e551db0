/-!
# Days and dates

Dates of the proleptic Gregorian calendar, counted in days from the first of January 1970. Years
are counted from March, so that the leap day is the last of its year, in eras of 400 years, which
all have the same number of days.
-/
namespace PeerFirewall.Time

/-- A date of the proleptic Gregorian calendar. -/
structure Date where
  year : Int
  month : Int
  day : Int
deriving DecidableEq, Repr

namespace Date

/-- The days of 400 years. -/
def daysOfEra : Int := 146097

/-- The days from the first of March of the year 0 to the first of January 1970. -/
def daysToEpoch : Int := 719468

/-- The days before a year of an era, which begins in March. -/
def daysBeforeYear (year : Int) : Int := 365 * year + year / 4 - year / 100

/-- The days before a month of a year, March being month 0. -/
def daysBeforeMonth (month : Int) : Int := (153 * month + 2) / 5

/-- The date that many days after the first of January 1970. -/
def ofDays (days : Int) : Date :=
  let shifted := days + daysToEpoch
  let era := shifted / daysOfEra
  let ofEra := shifted % daysOfEra
  let year := (ofEra - ofEra / 1460 + ofEra / 36524 - ofEra / 146096) / 365
  let ofYear := ofEra - daysBeforeYear year
  let month := (5 * ofYear + 2) / 153
  let day := ofYear - daysBeforeMonth month + 1
  if month < 10 then ⟨year + era * 400, month + 3, day⟩ else ⟨year + era * 400 + 1, month - 9, day⟩

/-- The days from the first of January 1970 to a date. -/
def toDays (date : Date) : Int :=
  let month := if date.month > 2 then date.month - 3 else date.month + 9
  let year := if date.month > 2 then date.year else date.year - 1
  year / 400 * daysOfEra + (daysBeforeYear (year % 400) + daysBeforeMonth month + (date.day - 1)) -
    daysToEpoch

/-- Whether the calendar has the date. -/
def Valid (date : Date) : Prop := ofDays (toDays date) = date

instance (date : Date) : Decidable date.Valid := inferInstanceAs (Decidable (_ = _))

end Date

end PeerFirewall.Time
