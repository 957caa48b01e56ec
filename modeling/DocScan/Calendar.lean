import DocScan.Text.Basic

/-!
# Calendar

The date and the time of day of a point in time, which is counted in seconds from the start of 1970,
in the Gregorian calendar without a time zone.
-/

namespace DocScan.Calendar

structure Date where
  year : Int
  month : Nat
  day : Nat
deriving DecidableEq, Repr

structure Moment where
  date : Date
  hour : Nat
  minute : Nat
  second : Nat
deriving DecidableEq, Repr

/-- The number of days in 400 years, after which the calendar repeats. -/
def daysInEra : Int := 146097

def daysBefore1970 : Int := 719468

/-- The date of a day, counted from the start of 1970. Years are taken to begin in March here, so
that the leap day is the last day of a year and the months before it have a fixed pattern of 153
days for five months. -/
def dateOfDay (day : Int) : Date :=
  let shifted := day + daysBefore1970
  let era := shifted / daysInEra
  let dayOfEra := (shifted % daysInEra).toNat
  let yearOfEra := (dayOfEra - dayOfEra / 1460 + dayOfEra / 36524 - dayOfEra / 146096) / 365
  let dayOfYear := dayOfEra - (365 * yearOfEra + yearOfEra / 4 - yearOfEra / 100)
  let monthFromMarch := (5 * dayOfYear + 2) / 153
  let day := dayOfYear - (153 * monthFromMarch + 2) / 5 + 1
  let month := if monthFromMarch < 10 then monthFromMarch + 3 else monthFromMarch - 9
  let year := 400 * era + yearOfEra + (if month ≤ 2 then 1 else 0)
  { year, month, day }

/-- The date and time of day of a second, counted from the start of 1970. -/
def momentOfSecond (second : Int) : Moment :=
  let secondOfDay := (second % 86400).toNat
  { date := dateOfDay (second / 86400), hour := secondOfDay / 3600
    minute := secondOfDay / 60 % 60, second := secondOfDay % 60 }

/-- The number of years that a clock of 32 bits does not reach in either direction. -/
def clockBound : Int := 2147483648

/-- A point in time whose year a clock of 32 bits counts, from 1900 on or backwards. -/
def Moment.isRepresentable (moment : Moment) : Bool :=
  -clockBound ≤ moment.date.year - 1900 ∧ moment.date.year - 1900 < clockBound

theorem hour_lt (second : Int) : (momentOfSecond second).hour < 24 := by
  simp only [momentOfSecond]
  omega

theorem minute_lt (second : Int) : (momentOfSecond second).minute < 60 := by
  simp only [momentOfSecond]
  omega

theorem second_lt (second : Int) : (momentOfSecond second).second < 60 := by
  simp only [momentOfSecond]
  omega

/-! ## Writing -/

def twoDigits (number : Nat) : Text := Text.padLeft '0' 2 (Text.ofNat number)

def Date.text (date : Date) : Text :=
  Text.join ['-'] [Text.ofInt date.year, twoDigits date.month, twoDigits date.day]

def Moment.text (moment : Moment) : Text :=
  moment.date.text ++ ' ' ::
    Text.join [':'] [twoDigits moment.hour, twoDigits moment.minute, twoDigits moment.second]

end DocScan.Calendar
