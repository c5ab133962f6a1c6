import QueryRegression.Calendar.TimeOfDay
import QueryRegression.Number.Power

/-!
# Instants

Points of universal time, in nanoseconds since the beginning of 1970, written as a date and a time
of day with the mark `Z`. `Span` is a length of time, and so is what a steady clock shows: the time
since it was started.
-/

namespace QueryRegression

/-- A length of time. -/
structure Span where
  nanoseconds : Nat
deriving DecidableEq

namespace Span

/-- A number of milliseconds. -/
def ofMilliseconds (n : Nat) : Span := ⟨n * 1000000⟩

/-- The whole milliseconds in a span. -/
def milliseconds (s : Span) : Nat := s.nanoseconds / 1000000

/-- The span in seconds with three places, or in milliseconds below one second. -/
def toText (s : Span) : String :=
  let seconds := s.milliseconds / 1000
  let millis := s.milliseconds % 1000
  if 0 < seconds then s!"{seconds}." ++ padded 3 millis ++ "s" else s!"{millis}ms"

/-- The longest span that may be allowed for something; its seconds have 64 bits. -/
def longest : Span := ⟨2 ^ 64 * 1000000000 - 1⟩

/-- The span so many times, unless this is longer than the longest. -/
def times? (s : Span) (n : Nat) : Option Span :=
  if s.nanoseconds * n ≤ longest.nanoseconds then some ⟨s.nanoseconds * n⟩ else none

/-- The last reading of a steady clock; its seconds have 63 bits. -/
def lastReading : Span := ⟨2 ^ 63 * 1000000000 - 1⟩

/-- The reading of a steady clock a span after another one, unless the clock cannot show it. -/
def later? (reading span : Span) : Option Span :=
  if reading.nanoseconds + span.nanoseconds ≤ lastReading.nanoseconds then
    some ⟨reading.nanoseconds + span.nanoseconds⟩
  else none

end Span

/-- A point of universal time. -/
structure Instant where
  nanoseconds : Int
deriving DecidableEq

namespace Instant

/-- The number of days since the beginning of 1970 as year, month and day. Years are counted from
March, so that a leap day ends its year, in cycles of 400 years. -/
def civil (days : Int) : Int × Nat × Nat :=
  let fromMarch := days + 719468
  let cycle := fromMarch / 146097
  let dayOfCycle := (fromMarch % 146097).toNat
  let yearOfCycle :=
    (dayOfCycle - dayOfCycle / 1460 + dayOfCycle / 36524 - dayOfCycle / 146096) / 365
  let dayOfYear := dayOfCycle - (365 * yearOfCycle + yearOfCycle / 4 - yearOfCycle / 100)
  let month := (5 * dayOfYear + 2) / 153
  let day := dayOfYear - (153 * month + 2) / 5 + 1
  let year := yearOfCycle + 400 * cycle
  if month < 10 then (year, month + 3, day) else (year + 1, month - 9, day)

/-- The instant as a date and a time with the part of the second it needs. -/
def toText (t : Instant) : String :=
  let second := t.nanoseconds / 1000000000
  let (year, month, day) := civil (second / 86400)
  let secondOfDay := (second % 86400).toNat
  let nanosecond := (t.nanoseconds % 1000000000).toNat
  let fraction :=
    if nanosecond = 0 then ""
    else if nanosecond % 1000000 = 0 then "." ++ padded 3 (nanosecond / 1000000)
    else if nanosecond % 1000 = 0 then "." ++ padded 6 (nanosecond / 1000)
    else "." ++ padded 9 nanosecond
  Date.yearText year ++ "-" ++ padded 2 month ++ "-" ++ padded 2 day ++ "T" ++
    padded 2 (secondOfDay / 3600) ++ ":" ++ padded 2 (secondOfDay / 60 % 60) ++ ":" ++
    padded 2 (secondOfDay % 60) ++ fraction ++ "Z"

/-- The time from one instant to a later one; none if it is not later. -/
def elapsedTo (start finish : Instant) : Span := ⟨(finish.nanoseconds - start.nanoseconds).toNat⟩

end Instant
end QueryRegression
