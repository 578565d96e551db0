import Mathlib.Algebra.Group.Nat.Defs
import PeerFirewall.Proofs.Time.Calendar
import PeerFirewall.Time.Instant

/-!
# Points in time are read back

`Instant.Nameable` says of a point in time that a text to the second can name it: the calendar
reaches its year, and it has no fraction, or stands at the beginning of a leap second. Its text is
read back (`Instant.parse_text`), and whatever text is read, the second that it lies in can be named
(`Instant.nameable_of_parse`).
-/
namespace PeerFirewall.Time

/-! ### Numbers -/

/-- The characters of a padded number. -/
def paddedDigits (width n : Nat) : List Char :=
  List.replicate (width - (Nat.toDigits 10 n).length) '0' ++ Nat.toDigits 10 n

/-- A padded number has its characters. -/
theorem toList_padded (width n : Nat) : (padded width n).toList = paddedDigits width n :=
  String.toList_ofList

/-- The characters of a padded number are digits. -/
theorem isDigit_of_mem_paddedDigits {width n : Nat} {c : Char} (member : c ∈ paddedDigits width n) :
    c.isDigit := by
  rcases List.mem_append.1 member with zero | digit
  · rw [List.eq_of_mem_replicate zero]
    rfl
  · exact Nat.isDigit_of_mem_toDigits (by decide) (by decide) digit

/-- A padded number has a character. -/
theorem paddedDigits_ne_nil (width n : Nat) : paddedDigits width n ≠ [] := by
  intro none
  exact Nat.toDigits_ne_nil (List.append_eq_nil_iff.1 none).2

/-- A number that fits its width is padded to it. -/
theorem length_paddedDigits {width n : Nat} (positive : 0 < width) (fits : n < 10 ^ width) :
    (paddedDigits width n).length = width := by
  have short := (Nat.length_toDigits_le_iff (by decide) positive).2 fits
  simp only [paddedDigits, List.length_append, List.length_replicate]
  omega

/-- The digits of a padded number have its value. -/
theorem digitsValue_paddedDigits (width n : Nat) :
    InstantReader.digitsValue (paddedDigits width n) = n := by
  have value : InstantReader.digitsValue (paddedDigits width n) =
      Nat.ofDigitChars 10 (paddedDigits width n) 0 := by
    rw [Nat.ofDigitChars_eq_foldl]
    rfl
  rw [value, paddedDigits, Nat.ofDigitChars_append, Nat.ofDigitChars_replicate_zero, Nat.mul_zero,
    Nat.ofDigitChars_ten_toDigits]

/-- Each digit behind a number makes it ten times as large at most. -/
theorem foldl_digits_lt {digits : List Char} {value bound : Nat} (all : ∀ c ∈ digits, c.isDigit)
    (below : value < bound) :
    digits.foldl (fun n c => 10 * n + (c.toNat - '0'.toNat)) value <
      bound * 10 ^ digits.length := by
  induction digits generalizing value bound with
  | nil => simpa using below
  | cons c rest ih =>
    have ⟨digit, later⟩ := List.forall_mem_cons.1 all
    have small : c.toNat - '0'.toNat < 10 := by
      have most : c.toNat ≤ '9'.toNat := (Char.isDigit_iff_toNat.1 digit).2
      have nine : '9'.toNat = 57 := rfl
      have zero : '0'.toNat = 48 := rfl
      omega
    have next : 10 * value + (c.toNat - '0'.toNat) < bound * 10 := by omega
    rw [List.foldl_cons, List.length_cons, Nat.pow_succ', ← Nat.mul_assoc]
    exact ih later next

/-- The value of digits is below the power of their number. -/
theorem digitsValue_lt {digits : List Char} (all : ∀ c ∈ digits, c.isDigit) :
    InstantReader.digitsValue digits < 10 ^ digits.length := by
  have below := foldl_digits_lt all (show 0 < 1 by decide)
  rw [Nat.one_mul] at below
  exact below

namespace InstantReader

/-! ### Reading what is written -/

/-- Digits are read up to the most that may be read, or up to another character. -/
theorem digits_append {most : Nat} {ds rest : List Char} (all : ∀ c ∈ ds, c.isDigit)
    (some : ds ≠ []) (fits : ds.length ≤ most)
    (ends : ds.length = most ∨ rest.takeWhile Char.isDigit = []) :
    digits most (ds ++ rest) = .ok (ds, rest) := by
  have taken : ((ds ++ rest).takeWhile Char.isDigit).take most = ds := by
    rw [List.takeWhile_append_of_pos all]
    rcases ends with full | stops
    · exact List.take_left' full
    · rw [stops, List.append_nil, List.take_of_length_le fits]
  unfold digits
  rw [taken]
  cases ds with
  | nil => exact absurd rfl some
  | cons c others => simp

/-- No white space stands before a digit. -/
theorem skipSpace_of_digit {c : Char} {rest : List Char} (digit : c.isDigit) :
    skipSpace (c :: rest) = c :: rest := by
  have low := (Char.isDigit_iff_toNat.1 digit).1
  have high := (Char.isDigit_iff_toNat.1 digit).2
  have zero : '0'.toNat = 48 := rfl
  have nine : '9'.toNat = 57 := rfl
  have visible : Text.isBlank c = false := by
    simp only [Text.isBlank, Bool.or_eq_false_iff, Bool.and_eq_false_iff, decide_eq_false_iff_not,
      beq_eq_false_iff_ne]
    omega
  simp [skipSpace, visible]

/-- No white space stands before digits. -/
theorem skipSpace_of_digits {ds rest : List Char} (all : ∀ c ∈ ds, c.isDigit) (some : ds ≠ []) :
    skipSpace (ds ++ rest) = ds ++ rest := by
  cases ds with
  | nil => exact absurd rfl some
  | cons c others => exact skipSpace_of_digit (all c List.mem_cons_self)

/-- A component of two digits is read. -/
theorem component_padded {low high value : Int} (nonneg : 0 ≤ low) (fits : high < 100)
    (atLeast : low ≤ value) (atMost : value ≤ high) (rest : List Char) :
    component low high (paddedDigits 2 value.toNat ++ rest) = .ok (value, rest) := by
  have all : ∀ c ∈ paddedDigits 2 value.toNat, c.isDigit := fun _ => isDigit_of_mem_paddedDigits
  have length : (paddedDigits 2 value.toNat).length = 2 :=
    length_paddedDigits (by decide) (by omega)
  have reads : digits 2 (paddedDigits 2 value.toNat ++ rest) =
      .ok (paddedDigits 2 value.toNat, rest) :=
    digits_append all (paddedDigits_ne_nil 2 _) (Nat.le_of_eq length) (.inl length)
  have same : (value.toNat : Int) = value := Int.toNat_of_nonneg (by omega)
  unfold component
  rw [skipSpace_of_digits all (paddedDigits_ne_nil 2 _), reads]
  simp only [bind, Except.bind, within, digitsValue_paddedDigits, same, atLeast, atMost, and_self,
    if_true]

/-- A year of four digits is read as a number. -/
theorem year_of_digits {ds rest : List Char} (all : ∀ c ∈ ds, c.isDigit) (length : ds.length = 4) :
    year (ds ++ rest) = yearWithin (digitsValue ds) rest := by
  have some : ds ≠ [] := by
    intro empty
    subst empty
    exact absurd length (by decide)
  have reads : digits 4 (ds ++ rest) = .ok (ds, rest) :=
    digits_append all some (Nat.le_of_eq length) (.inl length)
  unfold year
  rw [skipSpace_of_digits all some]
  split
  · rename_i sign
    cases ds with
    | nil => exact absurd rfl some
    | cons c others =>
      cases sign
      exact absurd (all '-' List.mem_cons_self) (by decide)
  · rename_i sign
    cases ds with
    | nil => exact absurd rfl some
    | cons c others =>
      cases sign
      exact absurd (all '+' List.mem_cons_self) (by decide)
  · rw [reads]
    rfl

/-- Behind a sign any number of digits is read. -/
theorem digits_before_hyphen {ds : List Char} (all : ∀ c ∈ ds, c.isDigit) (some : ds ≠ [])
    (rest : List Char) :
    digits (ds ++ '-' :: rest).length (ds ++ '-' :: rest) = .ok (ds, '-' :: rest) := by
  have fits : ds.length ≤ (ds ++ '-' :: rest).length := by
    rw [List.length_append]
    exact Nat.le_add_right _ _
  exact digits_append all some fits (.inr rfl)

/-- A year with a minus is read as the negative number. -/
theorem year_of_minus {ds : List Char} (all : ∀ c ∈ ds, c.isDigit) (some : ds ≠ [])
    (rest : List Char) :
    year ('-' :: (ds ++ '-' :: rest)) = yearWithin (-(digitsValue ds : Int)) ('-' :: rest) := by
  have unspaced : skipSpace ('-' :: (ds ++ '-' :: rest)) = '-' :: (ds ++ '-' :: rest) := rfl
  unfold year
  rw [unspaced]
  simp only [digits_before_hyphen all some]
  rfl

/-- A year with a plus is read as the number. -/
theorem year_of_plus {ds : List Char} (all : ∀ c ∈ ds, c.isDigit) (some : ds ≠ [])
    (rest : List Char) :
    year ('+' :: (ds ++ '-' :: rest)) = yearWithin (digitsValue ds) ('-' :: rest) := by
  have unspaced : skipSpace ('+' :: (ds ++ '-' :: rest)) = '+' :: (ds ++ '-' :: rest) := rfl
  unfold year
  rw [unspaced]
  simp only [digits_before_hyphen all some]
  rfl

/-- A year that the calendar reaches is read. -/
theorem year_yearText {y : Int} (reached : inCalendar y) (rest : List Char) :
    year ((yearText y).toList ++ '-' :: rest) = .ok (y, '-' :: rest) := by
  have ⟨first, last⟩ : firstYear ≤ y ∧ y ≤ lastYear := by
    simpa [inCalendar] using reached
  simp only [firstYear, lastYear] at first last
  have isYear : yearWithin y ('-' :: rest) = .ok (y, '-' :: rest) := by
    have inside : -2147483648 ≤ y ∧ y ≤ 2147483647 := by omega
    simp [yearWithin, within, inside]
  unfold yearText
  split
  · rename_i four
    have length : (paddedDigits 4 y.toNat).length = 4 :=
      length_paddedDigits (by decide) (by omega)
    have value : (y.toNat : Int) = y := Int.toNat_of_nonneg four.1
    rw [toList_padded, year_of_digits (fun _ => isDigit_of_mem_paddedDigits) length,
      digitsValue_paddedDigits, value, isYear]
  · have all : ∀ c ∈ paddedDigits 4 y.natAbs, c.isDigit := fun _ => isDigit_of_mem_paddedDigits
    have some := paddedDigits_ne_nil 4 y.natAbs
    split
    · have value : -(y.natAbs : Int) = y := by omega
      have sign : ("-" ++ padded 4 y.natAbs).toList ++ '-' :: rest =
          '-' :: (paddedDigits 4 y.natAbs ++ '-' :: rest) := by
        simp [toList_padded]
      rw [sign, year_of_minus all some, digitsValue_paddedDigits, value, isYear]
    · have value : (y.natAbs : Int) = y := by omega
      have sign : ("+" ++ padded 4 y.natAbs).toList ++ '-' :: rest =
          '+' :: (paddedDigits 4 y.natAbs ++ '-' :: rest) := by
        simp [toList_padded]
      rw [sign, year_of_plus all some, digitsValue_paddedDigits, value, isYear]

end InstantReader

namespace InstantReader

/-! ### What is read -/

/-- Steps that may fail come to a value just where each does. -/
theorem bind_eq_ok {α β : Type} {first : Except TimeFault α} {next : α → Except TimeFault β}
    {b : β} : first >>= next = .ok b ↔ ∃ a, first = .ok a ∧ next a = .ok b := by
  cases first <;> simp [bind, Except.bind]

/-- Digits that are read are digits, and no more than the most. -/
theorem digits_eq_ok {most : Nat} {text ds rest : List Char}
    (reads : digits most text = .ok (ds, rest)) : (∀ c ∈ ds, c.isDigit) ∧ ds.length ≤ most := by
  have same : ds = (text.takeWhile Char.isDigit).take most := by
    unfold digits at reads
    simp only at reads
    split at reads
    · cases reads
    · cases reads
    · cases reads
      rfl
  subst same
  constructor
  · intro c member
    exact List.all_eq_true.1 List.all_takeWhile c (List.mem_of_mem_take member)
  · exact List.length_take_le ..

/-- A fraction is less than a second. -/
theorem fraction_lt {nanoseconds : Nat} {text rest : List Char}
    (reads : fraction text = .ok (nanoseconds, rest)) :
    nanoseconds < Instant.nanosecondsOfSecond := by
  unfold fraction at reads
  split at reads
  · obtain ⟨⟨ds, behind⟩, readsDigits, reads⟩ := bind_eq_ok.1 reads
    cases reads
    have ⟨all, most⟩ := digits_eq_ok readsDigits
    have nine : (ds ++ List.replicate (9 - ds.length) '0').length = 9 := by
      simp only [List.length_append, List.length_replicate]
      omega
    have digit : ∀ c ∈ ds ++ List.replicate (9 - ds.length) '0', c.isDigit := by
      intro c member
      rcases List.mem_append.1 member with digit | zero
      · exact all c digit
      · rw [List.eq_of_mem_replicate zero]
        rfl
    have below := digitsValue_lt digit
    rw [nine] at below
    exact below
  · cases reads
    decide

/-- An offset is of whole minutes. -/
theorem hoursAndMinutes_emod {seconds : Int} {text rest : List Char}
    (reads : hoursAndMinutes text = .ok (seconds, rest)) : seconds % 60 = 0 := by
  obtain ⟨⟨hours, behind⟩, _, reads⟩ := bind_eq_ok.1 reads
  obtain ⟨⟨minutes, behind⟩, _, reads⟩ := bind_eq_ok.1 reads
  simp only at reads
  split at reads
  · cases reads
  · cases reads
    omega

/-- An offset is of whole minutes. -/
theorem offset_emod {seconds : Int} {text rest : List Char}
    (reads : offset text = .ok (seconds, rest)) : seconds % 60 = 0 := by
  unfold offset at reads
  split at reads
  · cases reads
    rfl
  · split at reads
    · cases reads
    · split at reads
      · cases reads
        rfl
      · split at reads
        · exact hoursAndMinutes_emod reads
        · split at reads
          · obtain ⟨⟨distance, behind⟩, readsDistance, reads⟩ := bind_eq_ok.1 reads
            cases reads
            have minutes := hoursAndMinutes_emod readsDistance
            omega
          · cases reads

/-- A point in time that is assembled lies within the calendar. -/
theorem assemble_eq_ok {date : Date} {time distance : Int} {nanoseconds : Nat} {t : Instant}
    (assembled : assemble date time nanoseconds distance = .ok t) :
    t = ⟨date.toDays * Instant.secondsOfDay + time - distance, nanoseconds⟩ ∧
      inCalendar (Date.ofDays (t.seconds / Instant.secondsOfDay)).year := by
  unfold assemble at assembled
  split at assembled
  · cases assembled
  · simp only at assembled
    split at assembled
    · cases assembled
      exact ⟨rfl, ‹_›⟩
    · cases assembled

end InstantReader

namespace Instant

open InstantReader

/-- Whether a text to the second can name a point in time: the calendar reaches it, and it has no
fraction or begins a leap second. -/
structure Nameable (t : Instant) : Prop where
  reached : inCalendar (Date.ofDays (t.seconds / secondsOfDay)).year
  whole : t.nanoseconds = 0 ∨ t.nanoseconds = nanosecondsOfSecond ∧ t.seconds % 60 = 59

/-- The characters of a date and time of day. -/
theorem toList_dateTimeText (t : Instant) :
    t.dateTimeText.toList =
      let date := Date.ofDays (t.seconds / secondsOfDay)
      let time := t.seconds % secondsOfDay
      (yearText date.year).toList ++ '-' :: (paddedDigits 2 date.month.toNat ++ '-' ::
        (paddedDigits 2 date.day.toNat ++ 'T' :: (paddedDigits 2 (time / 3600).toNat ++ ':' ::
          (paddedDigits 2 (time % 3600 / 60).toNat ++ ':' ::
            paddedDigits 2 ((time % 60).toNat + t.leap))))) := by
  simp [dateTimeText, toList_padded]

/-- A date of the calendar and a time of its day in UTC are a point in time. -/
theorem assemble_utc {date : Date} {time seconds : Int} (nanoseconds : Nat) (valid : date.Valid)
    (reached : inCalendar date.year) (sum : date.toDays * secondsOfDay + time = seconds)
    (sameDay : Date.ofDays (seconds / secondsOfDay) = date) :
    assemble date time nanoseconds 0 = .ok ⟨seconds, nanoseconds⟩ := by
  simp only [assemble, valid, reached, sum, sameDay, Int.sub_zero, and_self, not_true_eq_false,
    Int.natAbs_zero, false_or, if_true]
  rfl

/-- Date and time of day in UTC are read from their digits; the second 60 is the one before it and a
second more. -/
theorem parse_fields {year month day hour minute second : Int} (reached : inCalendar year)
    (isMonth : 1 ≤ month ∧ month ≤ 12) (isDay : 1 ≤ day ∧ day ≤ 31)
    (isHour : 0 ≤ hour ∧ hour ≤ 23) (isMinute : 0 ≤ minute ∧ minute ≤ 59)
    (isSecond : 0 ≤ second ∧ second ≤ 60) {text : String}
    (letters : text.toList = (yearText year).toList ++ '-' :: (paddedDigits 2 month.toNat ++ '-' ::
      (paddedDigits 2 day.toNat ++ 'T' :: (paddedDigits 2 hour.toNat ++ ':' ::
        (paddedDigits 2 minute.toNat ++ ':' :: (paddedDigits 2 second.toNat ++ ['Z'])))))) :
    parse text =
      if second = 60 then
        assemble ⟨year, month, day⟩ (hour * 3600 + minute * 60 + 59) nanosecondsOfSecond 0
      else assemble ⟨year, month, day⟩ (hour * 3600 + minute * 60 + second) 0 0 := by
  have readsMonth := component_padded (by decide) (by decide) isMonth.1 isMonth.2
  have readsDay := component_padded (by decide) (by decide) isDay.1 isDay.2
  have readsHour := component_padded (by decide) (by decide) isHour.1 isHour.2
  have readsMinute := component_padded (by decide) (by decide) isMinute.1 isMinute.2
  have readsSecond := component_padded (by decide) (by decide) isSecond.1 isSecond.2
  have hyphen (rest : List Char) : mark '-' ('-' :: rest) = .ok rest := rfl
  have colon (rest : List Char) : mark ':' (':' :: rest) = .ok rest := rfl
  have between (rest : List Char) : one ['T', 't', ' '] ('T' :: rest) = .ok rest := rfl
  have noFraction : fraction ['Z'] = .ok (0, ['Z']) := rfl
  have zulu : offset (skipSpace ['Z']) = .ok (0, []) := rfl
  have ended : (skipSpace []).isEmpty = true := rfl
  rw [parse, letters]
  simp only [bind, Except.bind, year_yearText reached, hyphen, readsMonth, readsDay, between,
    readsHour, colon, readsMinute, readsSecond, noFraction, zulu, ended, Bool.not_true,
    Bool.false_eq_true, if_false]
  split
  · rw [Nat.zero_add]
  · rfl

/-- A point in time that can be named is read back from its text. -/
theorem parse_text {t : Instant} (nameable : t.Nameable) : parse t.text = .ok t := by
  have ⟨firstMonth, lastMonth, firstDay, lastDay⟩ := Date.ofDays_bounds (t.seconds / secondsOfDay)
  have valid := Date.valid_ofDays (t.seconds / secondsOfDay)
  have days := Date.toDays_ofDays (t.seconds / secondsOfDay)
  have reached := nameable.reached
  have nonneg : 0 ≤ t.seconds % secondsOfDay := Int.emod_nonneg _ (by decide)
  have below : t.seconds % secondsOfDay < secondsOfDay := Int.emod_lt_of_pos _ (by decide)
  have whole := Int.mul_ediv_add_emod t.seconds secondsOfDay
  have letters : t.text.toList = t.dateTimeText.toList ++ ['Z'] := String.toList_append
  rw [toList_dateTimeText] at letters
  generalize dateEq : Date.ofDays (t.seconds / secondsOfDay) = date at *
  generalize timeEq : t.seconds % secondsOfDay = time at *
  simp only [secondsOfDay] at below whole timeEq
  have leapSecond : (time % 60).toNat + t.leap = (time % 60 + t.leap).toNat := by omega
  have leapMost : t.leap ≤ 1 := by
    unfold leap
    split <;> omega
  simp only [leapSecond, List.append_assoc, List.cons_append] at letters
  rw [parse_fields reached ⟨firstMonth, lastMonth⟩ ⟨firstDay, lastDay⟩ (by omega) (by omega)
    (by omega) letters]
  obtain ⟨seconds, nanoseconds⟩ := t
  simp only at *
  rcases nameable.whole with none | ⟨leapt, last⟩
  · simp only at none
    have noLeap : leap ⟨seconds, nanoseconds⟩ = 0 := by simp [leap, none, nanosecondsOfSecond]
    have notSixty : time % 60 + ((0 : Nat) : Int) ≠ 60 := by omega
    rw [noLeap, if_neg notSixty, none]
    exact assemble_utc 0 valid reached (by simp only [days, secondsOfDay]; omega) dateEq
  · simp only at leapt last
    have isLeap : leap ⟨seconds, nanoseconds⟩ = 1 := by simp [leap, leapt]
    have sixty : time % 60 + ((1 : Nat) : Int) = 60 := by omega
    rw [isLeap, if_pos sixty, leapt]
    exact assemble_utc _ valid reached (by simp only [days, secondsOfDay]; omega) dateEq

/-- The second that a point in time lies in can be named if the point in time is read. -/
theorem nameable_of_parse {text : String} {t : Instant} (reads : parse text = .ok t) :
    t.wholeSecond.Nameable := by
  obtain ⟨⟨year, _⟩, _, reads⟩ := bind_eq_ok.1 reads
  obtain ⟨_, _, reads⟩ := bind_eq_ok.1 reads
  obtain ⟨⟨month, _⟩, _, reads⟩ := bind_eq_ok.1 reads
  obtain ⟨_, _, reads⟩ := bind_eq_ok.1 reads
  obtain ⟨⟨day, _⟩, _, reads⟩ := bind_eq_ok.1 reads
  obtain ⟨_, _, reads⟩ := bind_eq_ok.1 reads
  obtain ⟨⟨hour, _⟩, readsHour, reads⟩ := bind_eq_ok.1 reads
  obtain ⟨_, _, reads⟩ := bind_eq_ok.1 reads
  obtain ⟨⟨minute, _⟩, readsMinute, reads⟩ := bind_eq_ok.1 reads
  obtain ⟨_, _, reads⟩ := bind_eq_ok.1 reads
  obtain ⟨⟨second, _⟩, readsSecond, reads⟩ := bind_eq_ok.1 reads
  obtain ⟨⟨nanoseconds, _⟩, readsFraction, reads⟩ := bind_eq_ok.1 reads
  obtain ⟨⟨distance, _⟩, readsOffset, reads⟩ := bind_eq_ok.1 reads
  have small := fraction_lt readsFraction
  have minutes := offset_emod readsOffset
  simp only at reads
  split at reads
  · cases reads
  · by_cases sixty : second = 60
    · simp only [sixty, if_true] at reads
      obtain ⟨rfl, reached⟩ := assemble_eq_ok reads
      have isLeap : leap ⟨Date.toDays ⟨year, month, day⟩ * secondsOfDay +
          (hour * 3600 + minute * 60 + 59) - distance, nanoseconds + nanosecondsOfSecond⟩ = 1 := by
        simp [leap]
      refine ⟨reached, .inr ⟨?_, ?_⟩⟩
      · simp only [wholeSecond, isLeap, Nat.one_mul]
      · simp only [wholeSecond, secondsOfDay]
        omega
    · simp only [sixty, if_false] at reads
      obtain ⟨rfl, reached⟩ := assemble_eq_ok reads
      refine ⟨reached, .inl ?_⟩
      simp only [wholeSecond, leap, small, if_true, Nat.zero_mul]

/-- The beginning of a second that can be named is its own. -/
theorem wholeSecond_of_nameable {t : Instant} (nameable : t.Nameable) : t.wholeSecond = t := by
  obtain ⟨seconds, nanoseconds⟩ := t
  rcases nameable.whole with none | ⟨leapt, _⟩
  · simp only at none
    simp [wholeSecond, leap, none, nanosecondsOfSecond]
  · simp only at leapt
    simp [wholeSecond, leap, leapt]

end Instant

end PeerFirewall.Time
