import FoldMark.Number.Literal

/-!
# Dates and times

Dates of the years 1 to 9999, times of day with microseconds, and both together, possibly with the
distance from universal time. Each is built from fields that were checked, and written with a fixed
number of digits.
-/

namespace FoldMark

/-- A day. -/
structure Date where
  /-- The year. -/
  year : Nat
  /-- The month, counted from one. -/
  month : Nat
  /-- The day of the month, counted from one. -/
  day : Nat
  deriving DecidableEq, Repr

/-- A time of day. -/
structure TimeOfDay where
  /-- The hour. -/
  hour : Nat
  /-- The minute. -/
  minute : Nat
  /-- The second. -/
  second : Nat
  /-- The microsecond. -/
  micro : Nat
  deriving DecidableEq, Repr

/-- A time on a day. -/
structure DateTime where
  /-- The day. -/
  date : Date
  /-- The time of day. -/
  time : TimeOfDay
  /-- Minutes ahead of universal time, where known. -/
  offset : Option Int
  deriving DecidableEq, Repr

/-- Decimal digits filled up with zeros to a width. -/
def padded (width n : Nat) : List Char :=
  let digits := (toString n).toList
  List.replicate (width - digits.length) '0' ++ digits

namespace Date

/-- Whether a year has a twenty-ninth of February. -/
def isLeap (year : Nat) : Bool := year % 4 = 0 && (year % 100 ≠ 0 || year % 400 = 0)

/-- The days of a month. -/
def monthLength (year month : Nat) : Nat :=
  if month = 2 then (if isLeap year then 29 else 28)
  else if [4, 6, 9, 11].contains month then 30
  else 31

/-- The date with the given fields, if there is one. -/
def make? (year month day : Nat) : Option Date :=
  if 1 ≤ year && year ≤ 9999 && 1 ≤ month && month ≤ 12 &&
      1 ≤ day && day ≤ monthLength year month then
    some ⟨year, month, day⟩
  else none

/-- The days before a date, counted from the first day of the year one. -/
def dayNumber (date : Date) : Nat :=
  let years := date.year - 1
  let months :=
    (List.range (date.month - 1)).foldl (fun days m => days + monthLength date.year (m + 1)) 0
  years * 365 + years / 4 - years / 100 + years / 400 + months + (date.day - 1)

/-- Year, month and day, separated by hyphens. -/
def text (date : Date) : List Char :=
  padded 4 date.year ++ '-' :: padded 2 date.month ++ '-' :: padded 2 date.day

end Date

namespace TimeOfDay

/-- The time with the given fields, if there is one. -/
def make? (hour minute second micro : Nat) : Option TimeOfDay :=
  if hour < 24 && minute < 60 && second < 60 && micro < 1000000 then
    some ⟨hour, minute, second, micro⟩
  else none

/-- The microseconds before a time of day. -/
def micros (time : TimeOfDay) : Nat :=
  ((time.hour * 60 + time.minute) * 60 + time.second) * 1000000 + time.micro

/-- Hour, minute and second, separated by colons, and the microseconds if there are any. -/
def text (time : TimeOfDay) : List Char :=
  padded 2 time.hour ++ ':' :: padded 2 time.minute ++ ':' :: padded 2 time.second ++
    if time.micro = 0 then [] else '.' :: padded 6 time.micro

end TimeOfDay

namespace DateTime

/-- The minutes of a day. -/
def dayMinutes : Int := 1440

/-- Whether a distance from universal time is less than a day. -/
def isOffset (minutes : Int) : Bool := -dayMinutes < minutes && minutes < dayMinutes

/-- Hours and minutes of a distance from universal time, with its sign. -/
def offsetText (minutes : Int) : List Char :=
  (if minutes < 0 then '-' else '+') :: padded 2 (minutes.natAbs / 60) ++
    ':' :: padded 2 (minutes.natAbs % 60)

/-- Date and time around a separator. -/
def text (separator : Char) (t : DateTime) : List Char :=
  t.date.text ++ separator :: t.time.text ++
    match t.offset with
    | some minutes => offsetText minutes
    | none => []

/-- Microseconds since the first day of the year one, in universal time where that is known. -/
def instant (t : DateTime) : Int :=
  ((t.date.dayNumber : Int) * dayMinutes - t.offset.getD 0) * 60000000 + t.time.micros

/-- Whether two times are the same, where only times of the same kind can be. -/
def same (a b : DateTime) : Bool := a.offset.isSome == b.offset.isSome && a.instant == b.instant

end DateTime

end FoldMark
