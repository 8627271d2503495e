import JsonQuery.Fault
import JsonQuery.Number.Reading

/-!
Days and times as plain scalars: a day is year, month and day in two or four digits, and a
time follows it behind a letter or blanks, with a fraction and a zone if they are given.
-/

namespace JsonQuery.Yaml

/-- The digits at the beginning of a text, of which there have to be some number between two
bounds, and what follows them. -/
def digitsBetween (least most : Nat) (cs : List Char) : Option (Nat × List Char) :=
  let digits := (cs.takeWhile Text.isAsciiDigit).take most
  if digits.length < least then none
  else some (natOfDigits digits, cs.drop digits.length)

/-- What follows a character. -/
def behind (c : Char) : List Char → Option (List Char)
  | [] => none
  | d :: rest => if d == c then some rest else none

/-- Year, month and day. -/
structure Day where
  year : Nat
  month : Nat
  day : Nat

/-- Hour, minute, second and millionths of a second, and the minutes by which the zone is
ahead, if there is one. -/
structure Clock where
  hour : Nat
  minute : Nat
  second : Nat
  millionths : Nat
  zone : Option Int

/-- The day at the beginning of a text and what follows it. Month and day may have a single
digit if `least` says so. -/
def dayAhead (least : Nat) (cs : List Char) : Option (Day × List Char) := do
  let (year, cs) ← digitsBetween 4 4 cs
  let (month, cs) ← digitsBetween least 2 (← behind '-' cs)
  let (day, cs) ← digitsBetween least 2 (← behind '-' cs)
  return (⟨year, month, day⟩, cs)

/-- The millionths that the digits of a fraction denote. -/
def millionthsOf (digits : List Char) : Nat :=
  natOfDigits (digits.take 6 ++ List.replicate (6 - digits.length) '0')

/-- The minutes by which a zone is ahead of the common one, none inside if no zone is given. -/
def zone? (cs : List Char) : Option (Option Int) :=
  match cs.dropWhile fun c => c == ' ' || c == '\t' with
  | [] => if cs.isEmpty then some none else none
  | ['Z'] => some (some 0)
  | sign :: rest => do
      let factor : Int ← if sign == '+' then some 1 else if sign == '-' then some (-1) else none
      let (hours, rest) ← digitsBetween 1 2 rest
      if rest.isEmpty then return some (factor * (60 * hours))
      let (minutes, rest) ← digitsBetween 2 2 (← behind ':' rest)
      if rest.isEmpty then return some (factor * (60 * hours + minutes)) else none

/-- The time that a text denotes. -/
def clockOf? (cs : List Char) : Option Clock := do
  let (hour, cs) ← digitsBetween 1 2 cs
  let (minute, cs) ← digitsBetween 2 2 (← behind ':' cs)
  let (second, cs) ← digitsBetween 2 2 (← behind ':' cs)
  let (fraction, cs) := match cs with
    | '.' :: rest => (rest.takeWhile Text.isAsciiDigit, rest.dropWhile Text.isAsciiDigit)
    | _ => ([], cs)
  return ⟨hour, minute, second, millionthsOf fraction, ← zone? cs⟩

/-- What follows the mark between day and time. -/
def behindTimeMark : List Char → Option (List Char)
  | [] => none
  | c :: rest =>
      if c == 'T' || c == 't' then some rest
      else if c == ' ' || c == '\t' then some (rest.dropWhile fun c => c == ' ' || c == '\t')
      else none

/-- The day a text denotes, if it is one. Month and day may have a single digit if `least`
says so. -/
def dayOf? (least : Nat) (cs : List Char) : Option Day := do
  let (day, rest) ← dayAhead least cs
  if rest.isEmpty then return day else none

/-- The day and the time a text denotes, if it is both. -/
def timeOf? (cs : List Char) : Option (Day × Clock) := do
  let (day, rest) ← dayAhead 1 cs
  return (day, ← clockOf? (← behindTimeMark rest))

/-- The number of days of a month. -/
def daysOfMonth (year month : Nat) : Nat :=
  if month == 2 then
    if year % 4 == 0 && (year % 100 != 0 || year % 400 == 0) then 29 else 28
  else if [4, 6, 9, 11].contains month then 30
  else 31

/-- Refuses a day that is not in the calendar. -/
def Day.check (d : Day) : Except Fault Unit :=
  if d.year == 0 then .error (.dateOutOfRange "year 0 is out of range")
  else if d.month == 0 || 12 < d.month then .error (.dateOutOfRange "month must be in 1..12")
  else if d.day == 0 || daysOfMonth d.year d.month < d.day then
    .error (.dateOutOfRange "day is out of range for month")
  else .ok ()

/-- A number of seconds, which is not zero, as it is told: the days in it, and the seconds
that remain. -/
def spanText (seconds : Int) : String :=
  let parts := [("days", seconds.fdiv 86400), ("seconds", seconds.fmod 86400)]
  let told := (parts.filter fun part => part.2 != 0).map fun (name, n) => s!"{name}={n}"
  "datetime.timedelta(" ++ ", ".intercalate told ++ ")"

/-- Refuses a zone that is a day or more away from the common one. -/
def Clock.checkZone (c : Clock) : Except Fault Unit :=
  if c.zone.any fun minutes => minutes.natAbs ≥ 1440 then
    .error (.dateOutOfRange ("offset must be a timedelta strictly between " ++
      "-timedelta(hours=24) and timedelta(hours=24), not " ++
      spanText (60 * c.zone.getD 0) ++ "."))
  else .ok ()

/-- Refuses a time that no clock shows. -/
def Clock.check (c : Clock) : Except Fault Unit :=
  if 23 < c.hour then .error (.dateOutOfRange "hour must be in 0..23")
  else if 59 < c.minute then .error (.dateOutOfRange "minute must be in 0..59")
  else if 59 < c.second then .error (.dateOutOfRange "second must be in 0..59")
  else .ok ()

/-- A number in decimal digits, of which there are at least some number. -/
def paddedDigits (width n : Nat) : String :=
  String.ofList (Text.padLeft width '0' (toString n).toList)

/-- A day as it is told. -/
def Day.text (d : Day) : String :=
  paddedDigits 4 d.year ++ "-" ++ paddedDigits 2 d.month ++ "-" ++ paddedDigits 2 d.day

/-- A time as it is told. -/
def Clock.text (c : Clock) : String :=
  paddedDigits 2 c.hour ++ ":" ++ paddedDigits 2 c.minute ++ ":" ++ paddedDigits 2 c.second ++
    (if c.millionths == 0 then "" else "." ++ paddedDigits 6 c.millionths) ++
    match c.zone with
    | none => ""
    | some minutes =>
        (if minutes < 0 then "-" else "+") ++ paddedDigits 2 (minutes.natAbs / 60) ++ ":" ++
          paddedDigits 2 (minutes.natAbs % 60)

end JsonQuery.Yaml
