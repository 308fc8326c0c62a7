import EventRelay.Decimal.Integer
import EventRelay.Instant.Basic

/-!
# Writing instants

An instant is written as a date, a time and `Z` for universal time. The years
from 0 to 9999 have four digits; every other year has a sign and at least four.
A leap second is second sixty.
-/

namespace EventRelay.Instant

open EventRelay.Decimal

/-- How many digits a fraction of a second has. -/
inductive Precision
  /-- Exactly three, the rest cut off. -/
  | millis
  /-- The fewest of none, three, six and nine that lose nothing. -/
  | fewest
  deriving DecidableEq, Repr

/-- The digits of a year. -/
def writeYear (year : Int) : List Char :=
  if 0 ≤ year ∧ year ≤ 9999 then padded 4 year.toNat
  else (if year < 0 then '-' else '+') :: padded 4 year.natAbs

/-- The fraction of a second, after a point. -/
def writeFraction (precision : Precision) (nanos : Nat) : List Char :=
  match precision with
  | .millis => '.' :: padded 3 (nanos / 1000000)
  | .fewest =>
      if nanos = 0 then []
      else if nanos % 1000000 = 0 then '.' :: padded 3 (nanos / 1000000)
      else if nanos % 1000 = 0 then '.' :: padded 6 (nanos / 1000)
      else '.' :: padded 9 nanos

/-- Write a date. -/
def writeDate (date : Date) : List Char :=
  writeYear date.year ++ '-' :: (padded 2 date.month ++ '-' :: padded 2 date.day)

/-- Write an instant. -/
def write (precision : Precision) (instant : Instant) : List Char :=
  let ofDay := instant.secondOfDay
  let leap := if instant.nanos < 1000000000 then 0 else 1
  writeDate instant.date ++ 'T' ::
    (padded 2 (ofDay / 3600) ++ ':' ::
      (padded 2 (ofDay / 60 % 60) ++ ':' ::
        (padded 2 (ofDay % 60 + leap) ++
          (writeFraction precision (instant.nanos % 1000000000) ++ ['Z']))))

/-- The text of an instant with the fewest digits that lose nothing. -/
def toText (instant : Instant) : String :=
  String.ofList (instant.write .fewest)

/-- The text of an instant with exactly three digits after the point. -/
def toMillisText (instant : Instant) : String :=
  String.ofList (instant.write .millis)

end EventRelay.Instant
