import FtpIntake.Text.Numeral
import FtpIntake.Text.Pieces

/-!
# Dates and times

A TOML document may give a date, a time, or both with an optional offset from universal time. The configuration has no
field for one, so a date only ever ends up as a text; `Moment.text` writes it the one way that counts as canonical.
-/

namespace FtpIntake.Toml

open Text

/-- A day. -/
structure Date where
  year : Nat
  month : Nat
  day : Nat
  deriving DecidableEq

/-- A time of day, to the nanosecond. -/
structure Time where
  hour : Nat
  minute : Nat
  second : Nat
  nanosecond : Nat
  deriving DecidableEq

/-- How far a time is ahead of universal time. -/
inductive Offset where
  | universal
  | shift (hours : Int) (minutes : Nat)
  deriving DecidableEq

/-- A date, a time, or both. -/
structure Moment where
  date : Option Date
  time : Option Time
  offset : Option Offset
  deriving DecidableEq

namespace Moment

/-! ## Reading -/

/-- Reads a number of exactly `n` digits, and what comes after it. -/
def readFixed (n : Nat) (s : List Char) : Option (Nat × List Char) :=
  if (s.take n).length = n then (readDigits (s.take n)).map (·, s.drop n) else none

/-- Reads a day. -/
def readDate (s : List Char) : Option (Date × List Char) := do
  let (year, s) ← readFixed 4 s
  let (month, s) ← readFixed 2 (← expect '-' s)
  let (day, s) ← readFixed 2 (← expect '-' s)
  if 1 ≤ month ∧ month ≤ 12 ∧ 1 ≤ day ∧ day ≤ 31 then some (⟨year, month, day⟩, s) else none

/-- Reads the places behind the seconds. Those after the ninth do not count. -/
def readNanoseconds : List Char → Option (Nat × List Char)
  | '.' :: r =>
    let places := r.takeWhile Char.isDigit
    -- filled up to nine places, and cut there
    (readDigits ((places ++ List.replicate 9 '0').take 9)).bind fun n =>
      if places.isEmpty then none else some (n, r.drop places.length)
  | s => some (0, s)

/-- Reads a time of day. -/
def readTime (s : List Char) : Option (Time × List Char) := do
  let (hour, s) ← readFixed 2 s
  let (minute, s) ← readFixed 2 (← expect ':' s)
  let (second, s) ← readFixed 2 (← expect ':' s)
  let (nanosecond, s) ← readNanoseconds s
  -- the bounds are those of the reader in use, which lets hour 24 pass and second 60 not
  if hour ≤ 24 ∧ minute ≤ 59 ∧ second ≤ 59 then some (⟨hour, minute, second, nanosecond⟩, s) else none

/-- Reads an offset, which ends the text. -/
def readOffset : List Char → Option (Option Offset)
  | [] => some none
  | c :: r =>
    if c = 'Z' ∨ c = 'z' then if r.isEmpty then some (some .universal) else none
    else if c = '+' ∨ c = '-' then do
      let (hours, s) ← readFixed 2 r
      let (minutes, s) ← readFixed 2 (← expect ':' s)
      if s.isEmpty then some (some (.shift (if c = '-' then -(hours : Int) else hours) minutes)) else none
    else none

/-- Reads a date, a time, or both. Only what has both may have an offset. -/
def ofText? (s : List Char) : Option Moment :=
  -- the colon behind two digits tells a time from a year
  if s[2]? = some ':' then do
    let (time, s) ← readTime s
    if s.isEmpty then some ⟨none, time, none⟩ else none
  else do
    let (date, s) ← readDate s
    match s with
    | c :: r =>
      if c = 'T' ∨ c = 't' ∨ c = ' ' then
        let (time, s) ← readTime r
        return ⟨date, time, ← readOffset s⟩
      else none
    | [] => return ⟨date, none, none⟩

/-! ## Writing -/

/-- A number with at least `n` digits. -/
def padded (n value : Nat) : List Char :=
  let digits := numeral value
  List.replicate (n - digits.length) '0' ++ digits

/-- A day: year, month and day with hyphens between them. -/
def Date.text (date : Date) : List Char :=
  padded 4 date.year ++ '-' :: padded 2 date.month ++ '-' :: padded 2 date.day

/-- A time of day. The places behind the seconds end with the last that is not zero. -/
def Time.text (time : Time) : List Char :=
  let places := ((padded 9 time.nanosecond).reverse.dropWhile (· == '0')).reverse
  padded 2 time.hour ++ ':' :: padded 2 time.minute ++ ':' :: padded 2 time.second ++
    (if places.isEmpty then [] else '.' :: places)

/-- An offset: the letter for universal time, or signed hours and minutes. -/
def Offset.text : Offset → List Char
  | .universal => ['Z']
  | .shift hours minutes =>
    -- the sign is that of the hours; minutes have none
    (if 0 ≤ hours then '+' else '-') :: padded 2 hours.natAbs ++ ':' :: padded 2 minutes

/-- The canonical text of a moment. -/
def text (moment : Moment) : List Char :=
  let date := (moment.date.map Date.text).getD []
  let time := (moment.time.map Time.text).getD []
  let offset := (moment.offset.map Offset.text).getD []
  let separator := if moment.date.isSome && moment.time.isSome then ['T'] else []
  date ++ separator ++ time ++ offset

end Moment

end FtpIntake.Toml
