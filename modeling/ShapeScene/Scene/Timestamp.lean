import ShapeScene.Text.Natural

/-!
# Moments of creation

A scene carries the moment at which it was made, once in its name to the minute and once as a
timestamp to the microsecond.
-/

namespace ShapeScene

/-- A date and time of day. A nanosecond from `10 ^ 9` on lies in a leap second. -/
structure Moment where
  /-- Year, by astronomical count. -/
  year : Int
  /-- Month from one to twelve. -/
  month : Nat
  /-- Day of the month from one. -/
  day : Nat
  /-- Hour from zero to twenty-three. -/
  hour : Nat
  /-- Minute from zero to fifty-nine. -/
  minute : Nat
  /-- Second from zero to fifty-nine. -/
  second : Nat
  /-- Nanoseconds within the second, counted on through a leap second. -/
  nanosecond : Nat
deriving DecidableEq, Repr

namespace Moment

/-- A year with at least four digits; one outside the first ten millennia has a sign. -/
def yearText (year : Int) : List Char :=
  if 0 ≤ year ∧ year ≤ 9999 then Text.paddedDigits 4 year.toNat
  else (if year < 0 then '-' else '+') :: Text.paddedDigits 4 year.natAbs

/-- The date. -/
def dateText (moment : Moment) : List Char :=
  yearText moment.year ++ '-' :: Text.paddedDigits 2 moment.month ++ '-' ::
    Text.paddedDigits 2 moment.day

/-- Hour and minute. -/
def clockText (moment : Moment) : List Char :=
  Text.paddedDigits 2 moment.hour ++ ':' :: Text.paddedDigits 2 moment.minute

/-- The second; a leap second is the one after the last. -/
def secondText (moment : Moment) : List Char :=
  Text.paddedDigits 2 (moment.second + moment.nanosecond / Nat.pow 10 9)

/-- Date and time of day to the minute. -/
def minuteText (moment : Moment) : String :=
  String.ofList (moment.dateText ++ ' ' :: moment.clockText)

/-- The timestamp: to the second, and to the microsecond unless none have passed. -/
def isoText (moment : Moment) : String :=
  let seconds := moment.dateText ++ 'T' :: moment.clockText ++ ':' :: moment.secondText
  String.ofList
    (if moment.nanosecond / 1000 = 0 then seconds
     else seconds ++ '.' :: Text.paddedDigits 6 (moment.nanosecond % Nat.pow 10 9 / 1000))

end Moment

end ShapeScene
