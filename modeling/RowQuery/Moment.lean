import RowQuery.Text.Numeral

/-!
Dates with a time of day and no zone. The fields are those of the calendar;
a leap second is the second 59 with a thousand million nanoseconds or more.
-/

namespace RowQuery

structure Moment where
  year : Int
  month : Nat
  day : Nat
  hour : Nat
  minute : Nat
  second : Nat
  nanosecond : Nat
deriving DecidableEq, Repr

namespace Moment

def nanosPerSecond : Nat := 1000000000

def isLeapYear (year : Int) : Bool :=
  year % 4 == 0 && (year % 100 != 0 || year % 400 == 0)

def daysInMonth (year : Int) (month : Nat) : Nat :=
  if month = 2 then (if isLeapYear year then 29 else 28)
  else if month = 4 || month = 6 || month = 9 || month = 11 then 30
  else 31

def leastYear : Int := -262143

def greatestYear : Int := 262142

def isValid (m : Moment) : Bool :=
  leastYear ≤ m.year && m.year ≤ greatestYear &&
    1 ≤ m.month && m.month ≤ 12 && 1 ≤ m.day && m.day ≤ daysInMonth m.year m.month &&
    m.hour < 24 && m.minute < 60 && m.second < 60 &&
    (m.nanosecond < nanosPerSecond || (m.second == 59 && m.nanosecond < 2 * nanosPerSecond))

/-- The fields from the greatest to the smallest unit, which order moments. -/
def fields (m : Moment) : List Int :=
  [m.year, m.month, m.day, m.hour, m.minute, m.second, m.nanosecond]

def compareWith (a b : Moment) : Ordering :=
  if a.fields < b.fields then .lt else if b.fields < a.fields then .gt else .eq

def fractionNanos (m : Moment) : Nat :=
  m.nanosecond % nanosPerSecond

/-- Years of four digits stand alone; other years have a sign. -/
def yearText (year : Int) : List Char :=
  if 0 ≤ year && year ≤ 9999 then Text.padded 4 year.natAbs
  else (if year < 0 then '-' else '+') :: Text.padded 4 year.natAbs

/-- The fraction with three, six or nine digits, the fewest that show it in full. -/
def fractionText (nanos : Nat) : List Char :=
  if nanos = 0 then []
  else if nanos % 1000000 = 0 then '.' :: Text.padded 3 (nanos / 1000000)
  else if nanos % 1000 = 0 then '.' :: Text.padded 6 (nanos / 1000)
  else '.' :: Text.padded 9 nanos

def calendarText (year : List Char) (m : Moment) : List Char :=
  year ++ '-' :: Text.padded 2 m.month ++ '-' :: Text.padded 2 m.day ++
    'T' :: Text.padded 2 m.hour ++ ':' :: Text.padded 2 m.minute

/-- Display text. A leap second is written as second 60. -/
def text (m : Moment) : String :=
  String.ofList (calendarText (yearText m.year) m ++
    ':' :: Text.padded 2 (m.second + m.nanosecond / nanosPerSecond) ++ fractionText m.fractionNanos)

end Moment

end RowQuery
