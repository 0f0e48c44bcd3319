/-!
# Dates and times of day

A clock reading is a number of seconds since the beginning of 1970, in universal time. This module writes it in
the two forms that replies and listings use: fourteen digits, as long as the year has four of them, and the twelve
characters of a long listing.
-/

namespace FtpIntake

/-- A day of the Gregorian calendar and a time of day. -/
structure DateTime where
  year : Nat
  month : Nat
  day : Nat
  hour : Nat
  minute : Nat
  second : Nat
  deriving DecidableEq

namespace DateTime

/--
The day with the given number of days since the beginning of 1970. The years are counted from March on, so that
a leap day is the last day of its year, and in eras of 400 years, all of which have the same number of days.
-/
def dayOf (days : Nat) : Nat × Nat × Nat :=
  let shifted := days + 719468
  let era := shifted / 146097
  let dayOfEra := shifted % 146097
  let yearOfEra := (dayOfEra - dayOfEra / 1460 + dayOfEra / 36524 - dayOfEra / 146096) / 365
  let dayOfYear := dayOfEra - (365 * yearOfEra + yearOfEra / 4 - yearOfEra / 100)
  let monthFromMarch := (5 * dayOfYear + 2) / 153
  let day := dayOfYear - (153 * monthFromMarch + 2) / 5 + 1
  let month := if monthFromMarch < 10 then monthFromMarch + 3 else monthFromMarch - 9
  let year := yearOfEra + 400 * era + if month ≤ 2 then 1 else 0
  (year, month, day)

/-- The date and time of a clock reading. -/
def ofSeconds (seconds : Nat) : DateTime :=
  let (year, month, day) := dayOf (seconds / 86400)
  let ofDay := seconds % 86400
  ⟨year, month, day, ofDay / 3600, ofDay / 60 % 60, ofDay % 60⟩

/-- Writes a number with at least `width` characters, filled up in front. -/
def padded (fill : Char) (width n : Nat) : List Char :=
  let digits := Nat.toDigits 10 n
  List.replicate (width - digits.length) fill ++ digits

/-- The English short name of a month. -/
def monthName (month : Nat) : List Char :=
  ((["Jan", "Feb", "Mar", "Apr", "May", "Jun", "Jul", "Aug", "Sep", "Oct", "Nov", "Dec"][month - 1]?).getD
    "").toList

/-- A year in four digits, or with a sign in front of it when it has more. -/
def yearChars (year : Nat) : List Char :=
  if year ≤ 9999 then padded '0' 4 year else '+' :: padded '0' 4 year

/-- Year, month, day, hour, minute and second as one run of digits. -/
def compactChars (t : DateTime) : List Char :=
  yearChars t.year ++ padded '0' 2 t.month ++ padded '0' 2 t.day ++ padded '0' 2 t.hour ++
    padded '0' 2 t.minute ++ padded '0' 2 t.second

/-- Month, day, hour and minute, in twelve characters. -/
def listingChars (t : DateTime) : List Char :=
  monthName t.month ++ ' ' :: padded ' ' 2 t.day ++ ' ' :: padded '0' 2 t.hour ++
    ':' :: padded '0' 2 t.minute

/-- The first second of 1970, a leap day, and the last day of a leap year. -/
example :
    ofSeconds 0 = ⟨1970, 1, 1, 0, 0, 0⟩ ∧ ofSeconds 951782400 = ⟨2000, 2, 29, 0, 0, 0⟩ ∧
      ofSeconds 1735689599 = ⟨2024, 12, 31, 23, 59, 59⟩ := by decide

end DateTime

end FtpIntake
