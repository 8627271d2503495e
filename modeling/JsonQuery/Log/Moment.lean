import JsonQuery.Number.Basic
import JsonQuery.Text.Basic

/-!
Moments as a log tells them: a number of seconds since the beginning of 1970, shown as day
and time of day in the calendar that is in use everywhere, without daylight saving.
-/

namespace JsonQuery

/-- A day of the calendar. Years before the first count down from zero. -/
structure CalendarDay where
  year : Int
  month : Nat
  day : Nat
  deriving DecidableEq, Repr

/-- The day that lies a number of days after the first day of 1970. Years are counted from
March on, so that a leap day ends its year; four hundred of them have 146097 days. -/
def CalendarDay.ofCount (days : Int) : CalendarDay :=
  let fromMarch := days + 719468
  let cycle := fromMarch / 146097
  let inCycle := (fromMarch % 146097).toNat
  let yearOfCycle := (inCycle - inCycle / 1460 + inCycle / 36524 - inCycle / 146096) / 365
  let inYear := inCycle - (365 * yearOfCycle + yearOfCycle / 4 - yearOfCycle / 100)
  let monthFromMarch := (5 * inYear + 2) / 153
  let month := if monthFromMarch < 10 then monthFromMarch + 3 else monthFromMarch - 9
  ⟨yearOfCycle + cycle * 400 + (if month ≤ 2 then 1 else 0), month,
    inYear - (153 * monthFromMarch + 2) / 5 + 1⟩

/-- A moment: whole seconds since the beginning of 1970, and millionths of a second. -/
structure Moment where
  seconds : Int
  millionths : Nat
  deriving DecidableEq, Repr

namespace Moment

/-- The moment a number of seconds away from the beginning of 1970, to the millionth. The
part of a second is multiplied in double precision before it is rounded. -/
def nearest? : Number → Option Moment
  | .int n => some ⟨n, 0⟩
  | .float (.finite negative units) =>
      let part := match Binary64.ofUnits false (units % Binary64.unitsPerOne * 1000000) 1 with
        | .finite _ scaled => roundHalfEven scaled Binary64.unitsPerOne
        | _ => 0
      let total := Binary64.signedUnits negative
        (units / Binary64.unitsPerOne * 1000000 + part)
      some ⟨total / 1000000, (total % 1000000).toNat⟩
  | .float _ => none

/-- The last full second at a number of seconds from the beginning of 1970. -/
def secondAt? : Number → Option Moment
  | .int n => some ⟨n, 0⟩
  | .float (.finite negative units) =>
      some ⟨Binary64.signedUnits negative units / Binary64.unitsPerOne, 0⟩
  | .float _ => none

/-- The day of a moment. -/
def day (m : Moment) : CalendarDay := .ofCount (m.seconds / 86400)

/-- A number with zeros before it up to a width. -/
def padded (width n : Nat) : String :=
  String.ofList (Text.padLeft width '0' (Nat.toDigits 10 n))

/-- The time of day of a moment, in full seconds. -/
def clockText (m : Moment) : String :=
  let second := (m.seconds % 86400).toNat
  padded 2 (second / 3600) ++ ":" ++ padded 2 (second / 60 % 60) ++ ":" ++ padded 2 (second % 60)

/-- Month and day of a moment. -/
def monthDayText (m : Moment) : String := padded 2 m.day.month ++ "-" ++ padded 2 m.day.day

/-- A moment in full, with its zone. Only years of four digits can be told so. -/
def isoText? (m : Moment) : Option String :=
  let year := m.day.year
  if 1 ≤ year && year ≤ 9999 then
    let fraction := if m.millionths == 0 then "" else "." ++ padded 6 m.millionths
    some (padded 4 year.toNat ++ "-" ++ m.monthDayText ++ "T" ++ m.clockText ++ fraction ++
      "+00:00")
  else none

/-- A moment to the second. Years have to fit in 32 bits, counted from 1900. -/
def plainText? (m : Moment) : Option String :=
  let year := m.day.year
  if -2147481748 ≤ year && year ≤ 2147483647 then
    some (toString year ++ "-" ++ m.monthDayText ++ " " ++ m.clockText)
  else none

end Moment

end JsonQuery
