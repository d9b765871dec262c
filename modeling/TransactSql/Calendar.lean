/-!
# Dates and times of day

Dates of the proleptic Gregorian calendar and timestamps without a zone, and their text in the
order year, month, day. A leap second is kept as second 59 with a nanosecond count of a full
second or more, and is written as second 60.
-/

namespace TransactSql

/-- A calendar date. -/
structure Date where
  year : Int
  month : Nat
  day : Nat
deriving DecidableEq, Repr, Inhabited

/-- A date with a time of day. -/
structure Timestamp where
  date : Date
  hour : Nat
  minute : Nat
  second : Nat
  nanosecond : Nat
deriving DecidableEq, Repr, Inhabited

namespace Calendar

/-- A number with zeros in front up to the given width. -/
def zeroPadded (width n : Nat) : String :=
  let digits := Nat.toDigits 10 n
  String.ofList (List.replicate (width - digits.length) '0' ++ digits)

/-- A year in four digits; outside 0 to 9999 it carries its sign. -/
def yearText (year : Int) : String :=
  let digits := zeroPadded 4 year.natAbs
  if year < 0 then "-" ++ digits else if 9999 < year then "+" ++ digits else digits

/-- The fraction of a second, in as few of three, six and nine digits as hold it exactly. -/
def fractionText (nanosecond : Nat) : String :=
  if nanosecond = 0 then ""
  else if nanosecond % 1000000 = 0 then "." ++ zeroPadded 3 (nanosecond / 1000000)
  else if nanosecond % 1000 = 0 then "." ++ zeroPadded 6 (nanosecond / 1000)
  else "." ++ zeroPadded 9 nanosecond

end Calendar

open Calendar

/-- A date as year, month and day. -/
def Date.text (d : Date) : String :=
  yearText d.year ++ "-" ++ zeroPadded 2 d.month ++ "-" ++ zeroPadded 2 d.day

/-- The time of day; a leap second is second 60. -/
def Timestamp.timeText (t : Timestamp) : String :=
  zeroPadded 2 t.hour ++ ":" ++ zeroPadded 2 t.minute ++ ":"
    ++ zeroPadded 2 (t.second + t.nanosecond / 1000000000)
    ++ fractionText (t.nanosecond % 1000000000)

/-- A timestamp for people: date and time with a blank between them. -/
def Timestamp.shown (t : Timestamp) : String :=
  t.date.text ++ " " ++ t.timeText

/-- A timestamp for machines: date and time with a `T` between them. -/
def Timestamp.text (t : Timestamp) : String :=
  t.date.text ++ "T" ++ t.timeText

end TransactSql
