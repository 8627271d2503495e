import JsonQuery.Number.Rounding

/-!
Double-precision binary numbers, computed with in exact arithmetic. Every finite
one is a whole multiple of the smallest positive one, so a finite number is kept
as a sign and a natural number of these units. The sign of zero is kept. Results
are rounded once, to 53 significant binary digits, ties going to the even digit.
-/

namespace JsonQuery

/-- A double-precision number; a finite one counts units of `2 ^ (-1074)`. What is no
number arises anew each time, except where JSON texts spell it: they all name one and the
same. -/
inductive Binary64 where
  | nan
  | spelledNan
  | infinite (negative : Bool)
  | finite (negative : Bool) (units : Nat)
  deriving DecidableEq, Repr

namespace Binary64

/-- How many units make one. -/
def unitsPerOne : Nat := powerOfTwo 1074

/-- The first magnitude beyond the finite ones, in units. -/
def unitLimit : Nat := powerOfTwo 2098

/-- The distance between neighbouring numbers at a magnitude given in units. -/
def spacing (units : Nat) : Nat := powerOfTwo (bitLength units - 53)

/-- The number with magnitude nearest to `num / den` units. -/
def ofUnits (negative : Bool) (num den : Nat) : Binary64 :=
  let step := spacing (num / den)
  let units := roundHalfEven num (den * step) * step
  if units < unitLimit then .finite negative units else .infinite negative

/-- The number with magnitude nearest to `num / den`. -/
def ofRatio (negative : Bool) (num den : Nat) : Binary64 :=
  ofUnits negative (num * unitsPerOne) den

/-- Positive zero. -/
def zero : Binary64 := .finite false 0

/-- The number nearest to `digits * 10 ^ exponent`. Exponents far outside the range
are answered without computing the power. -/
def ofDecimal (negative : Bool) (digits : Nat) (exponent : Int) : Binary64 :=
  let magnitude := exponent + decimalLength digits
  if digits == 0 || magnitude < -330 then .finite negative 0
  else if 310 < magnitude then .infinite negative
  else if 0 ≤ exponent then ofRatio negative (digits * powerOfTen exponent.toNat) 1
  else ofRatio negative digits (powerOfTen (-exponent).toNat)

/-- The number itself, if it is finite. -/
def finite? : Binary64 → Option Binary64
  | .finite negative units => some (.finite negative units)
  | _ => none

/-- The nearest finite number to an integer, unless the integer is too large. -/
def ofInt? (n : Int) : Option Binary64 := (ofRatio (n < 0) n.natAbs 1).finite?

/-- A finite number in units, with its sign. -/
def signedUnits (negative : Bool) (units : Nat) : Int :=
  if negative then -(units : Int) else units

/-- The integer a number is equal to. -/
def toInt? : Binary64 → Option Int
  | .finite negative units =>
      if units % unitsPerOne == 0 then some (signedUnits negative (units / unitsPerOne)) else none
  | _ => none

/-- Sum, rounded. Two zeros of opposite sign and a number with its opposite make
positive zero, and infinities of opposite sign have no sum. -/
def add : Binary64 → Binary64 → Binary64
  | .nan, _ | .spelledNan, _ => .nan
  | _, .nan | _, .spelledNan => .nan
  | .infinite a, .infinite b => if a == b then .infinite a else .nan
  | .infinite a, _ => .infinite a
  | _, .infinite b => .infinite b
  | .finite a m, .finite b n =>
      let sum := signedUnits a m + signedUnits b n
      if sum == 0 then .finite (a && b) 0
      else ofUnits (sum < 0) sum.natAbs 1

/-- Quotient by a positive count, rounded. -/
def divNat : Binary64 → Nat → Binary64
  | .finite negative units, n => ofUnits negative units n
  | x, _ => x

end Binary64

end JsonQuery
