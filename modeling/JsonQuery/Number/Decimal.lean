import JsonQuery.Number.Binary64

/-!
Decimal digits of double-precision numbers: the fewest digits that read back as
the same number, and a given count of digits rounded to nearest. Both work in exact
arithmetic on the magnitude in units. A layout then says how digits and exponent
are written; the layouts the program uses are values of one record.
-/

namespace JsonQuery

/-- A positive decimal number: its significant digits and the power of ten of the
leading one. -/
structure Decimal where
  digits : List Char
  leading : Int
  deriving DecidableEq, Repr

namespace Decimal

/-- The digit zero. -/
def zero : Decimal := ⟨['0'], 0⟩

/-- The quotient `units / 10 ^ power`, in units of one, as a fraction. -/
def scaled (units : Nat) (power : Int) : Nat × Nat :=
  (units * powerOfTen (-power).toNat, Binary64.unitsPerOne * powerOfTen power.toNat)

/-- Whether the magnitude is at least `10 ^ power`. -/
def reaches (units : Nat) (power : Int) : Bool :=
  let (num, den) := scaled units power
  den ≤ num

/-- The power of ten of the leading digit of a positive magnitude. The estimate from
the binary length is off by at most one. -/
def leadingPower (units : Nat) : Int :=
  let estimate := ((Nat.log2 units : Int) - 1074) * 30103 / 100000
  if !reaches units estimate then estimate - 1
  else if reaches units (estimate + 1) then estimate + 1
  else estimate

/-- The decimal number `value * 10 ^ power`, without zeros at its end. -/
def ofScaled (value : Nat) (power : Int) : Decimal :=
  let digits := Nat.toDigits 10 value
  let trimmed := (digits.reverse.dropWhile (· == '0')).reverse
  ⟨if trimmed.isEmpty then ['0'] else trimmed, power + digits.length - 1⟩

/-- The multiple of `10 ^ power` nearest to the magnitude among the two neighbours
that read back as the same number; of two equally near ones the even one. The gap
below a power of two is half the gap above it. -/
def neighbour? (units : Nat) (power : Int) : Option Nat :=
  let (num, den) := scaled units power
  let scale := powerOfTen (-power).toNat
  let gap := Binary64.spacing units
  let mantissa := units / gap
  let lowGap := if mantissa == powerOfTwo 52 && 1 < gap then gap else 2 * gap
  let closed := mantissa % 2 == 0
  let low := num / den
  let below := num % den
  let above := den - below
  let lowFits := if closed then 4 * below ≤ lowGap * scale else 4 * below < lowGap * scale
  let highFits := if closed then 2 * above ≤ gap * scale else 2 * above < gap * scale
  if lowFits && highFits then
    if below < above then some low
    else if above < below then some (low + 1)
    else if low % 2 == 0 then some low else some (low + 1)
  else if lowFits then some low
  else if highFits then some (low + 1)
  else none

/-- The fewest digits that read back as the positive magnitude, and among those the
nearest. Seventeen digits always read back. -/
def shortest (units : Nat) : Decimal :=
  let leading := leadingPower units
  let found := (List.range 17).findSome? fun (extra : Nat) =>
    let power := leading - (extra : Int)
    (neighbour? units power).map (ofScaled · power)
  found.getD zero

/-- The positive magnitude rounded to `count` significant digits, without zeros at its
end. -/
def rounded (count : Nat) (units : Nat) : Decimal :=
  let power := leadingPower units - count + 1
  let (num, den) := scaled units power
  ofScaled (roundHalfEven num den) power

/-- The magnitude rounded to `count` significant digits, zero having no others than
zeros. -/
def filled (count : Nat) (units : Nat) : Decimal :=
  let d := if units == 0 then zero else rounded count units
  ⟨d.digits ++ List.replicate (count - d.digits.length) '0', d.leading⟩

end Decimal

/-- How digits and exponent are written. Leading powers from `least` to `greatest` are
written without an exponent. -/
structure DecimalLayout where
  least : Int
  greatest : Int
  /-- Whether a whole number without exponent ends in a point and a zero. -/
  keepsPoint : Bool
  /-- The least number of digits of an exponent. -/
  exponentWidth : Nat
  deriving DecidableEq, Repr

namespace DecimalLayout

/-- The digits with an exponent behind them. -/
def withExponent (layout : DecimalLayout) (d : Decimal) : List Char :=
  let mantissa := match d.digits with
    | [] => []
    | [only] => [only]
    | first :: rest => first :: '.' :: rest
  let sign := if d.leading < 0 then '-' else '+'
  let exponent := Nat.toDigits 10 d.leading.natAbs
  mantissa ++ 'e' :: sign ::
    (List.replicate (layout.exponentWidth - exponent.length) '0' ++ exponent)

/-- The digits with the point in its place. -/
def positional (layout : DecimalLayout) (d : Decimal) : List Char :=
  let suffix := if layout.keepsPoint then ['.', '0'] else []
  if d.leading < 0 then
    '0' :: '.' :: (List.replicate (-d.leading - 1).toNat '0' ++ d.digits)
  else
    let whole := d.leading.toNat + 1
    if d.digits.length ≤ whole then
      d.digits ++ List.replicate (whole - d.digits.length) '0' ++ suffix
    else d.digits.take whole ++ '.' :: d.digits.drop whole

/-- A decimal number written out. -/
def write (layout : DecimalLayout) (d : Decimal) : List Char :=
  if layout.least ≤ d.leading && d.leading ≤ layout.greatest then layout.positional d
  else layout.withExponent d

/-- A double-precision number written out, its digits chosen by `digits` unless it is
zero. -/
def text (layout : DecimalLayout) (digits : Nat → Decimal) : Binary64 → String
  | .nan | .spelledNan => "nan"
  | .infinite negative => if negative then "-inf" else "inf"
  | .finite negative units =>
      let d := if units == 0 then Decimal.zero else digits units
      String.ofList ((if negative then ['-'] else []) ++ layout.write d)

/-- Data shows a number by its fewest digits, with an exponent from ten to the
sixteenth on and below a ten-thousandth, and always as a fraction. -/
def data : DecimalLayout := ⟨-4, 15, true, 2⟩

/-- Comma-separated tables switch to an exponent earlier and leave out what is not
needed. -/
def separated : DecimalLayout := ⟨-6, 9, false, 1⟩

/-- The general form with `count` significant digits. -/
def general (count : Nat) : DecimalLayout := ⟨-4, (count : Int) - 1, false, 2⟩

/-- The form that always has an exponent. -/
def scientific : DecimalLayout := ⟨1, 0, false, 2⟩

end DecimalLayout

namespace Binary64

/-- The text of a number in data. -/
def dataText (x : Binary64) : String := DecimalLayout.data.text Decimal.shortest x

/-- The text of a number in a comma-separated table. -/
def separatedText (x : Binary64) : String := DecimalLayout.separated.text Decimal.shortest x

/-- The general form of a number with `count` significant digits. -/
def generalText (count : Nat) (x : Binary64) : String :=
  (DecimalLayout.general count).text (Decimal.rounded count) x

/-- A magnitude with a fixed number of places behind the point, a half going to the even
neighbour. -/
def fixedDigits (places units : Nat) : List Char :=
  let digits := Nat.toDigits 10 (roundHalfEven (units * powerOfTen places) unitsPerOne)
  let padded := List.replicate (places + 1 - digits.length) '0' ++ digits
  padded.take (padded.length - places) ++
    (if places == 0 then [] else '.' :: padded.drop (padded.length - places))

/-- A number with a fixed number of places behind the point. -/
def fixedText (places : Nat) : Binary64 → String
  | .nan | .spelledNan => "nan"
  | .infinite negative => if negative then "-inf" else "inf"
  | .finite negative units =>
      String.ofList ((if negative then ['-'] else []) ++ fixedDigits places units)

end Binary64

end JsonQuery
