import QueryRegression.Calendar.Date

/-!
# Times of day and timestamps

A time of day counts seconds from midnight and nanoseconds in the second. In the last second of a
minute the nanoseconds may run on for another second, the leap second, which is written as the
second 60.
-/

namespace QueryRegression

/-- A time of day. -/
structure TimeOfDay where
  secondOfDay : Nat
  nanosecond : Nat
  secondOfDay_lt : secondOfDay < 86400
  nanosecond_lt : nanosecond < 2000000000
deriving DecidableEq

namespace TimeOfDay

/-- The time with the given numbers, if there is one. -/
def ofHMS? (hour minute second nanosecond : Nat) : Option TimeOfDay :=
  if h : hour < 24 ∧ minute < 60 ∧ second < 60 ∧ nanosecond < 2000000000 ∧
      (1000000000 ≤ nanosecond → second = 59) then
    some ⟨hour * 3600 + minute * 60 + second, nanosecond, by omega, h.2.2.2.1⟩
  else none

/-- Comparison in the order of time. -/
def compare (a b : TimeOfDay) : Ordering :=
  (Ord.compare a.secondOfDay b.secondOfDay).then (Ord.compare a.nanosecond b.nanosecond)

/-- Whether the time lies in a leap second. -/
def inLeapSecond (t : TimeOfDay) : Bool := 1000000000 ≤ t.nanosecond

/-- The time as hours, minutes and seconds. -/
def toText (t : TimeOfDay) : String :=
  let second := t.secondOfDay % 60 + (if t.inLeapSecond then 1 else 0)
  padded 2 (t.secondOfDay / 3600) ++ ":" ++ padded 2 (t.secondOfDay / 60 % 60) ++ ":" ++
    padded 2 second

/-- The part of the second with the fewest of no, three, six or nine digits that show it whole. -/
def fractionText (t : TimeOfDay) : String :=
  let n := t.nanosecond % 1000000000
  if n = 0 then ""
  else if n % 1000000 = 0 then "." ++ padded 3 (n / 1000000)
  else if n % 1000 = 0 then "." ++ padded 6 (n / 1000)
  else "." ++ padded 9 n

end TimeOfDay

/-- A day and a time of day. -/
structure Timestamp where
  date : Date
  time : TimeOfDay
deriving DecidableEq

namespace Timestamp

/-- Comparison in the order of time. -/
def compare (a b : Timestamp) : Ordering := (a.date.compare b.date).then (a.time.compare b.time)

/-- The timestamp with the part of the second it needs. -/
def toText (t : Timestamp) : String :=
  t.date.toText ++ " " ++ t.time.toText ++ t.time.fractionText

end Timestamp
end QueryRegression
