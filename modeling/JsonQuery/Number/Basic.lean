import JsonQuery.Number.Binary64

/-!
Numbers as data hold them: integers of any size and double-precision numbers,
compared exactly with each other. Comparison goes through the place a number has
on the line, so an integer is never rounded before it is compared.
-/

namespace JsonQuery

/-- The most digits an integer may have in text. -/
def integerDigitLimit : Nat := 4300

/-- An integer of any size or a double-precision number. -/
inductive Number where
  | int (value : Int)
  | float (value : Binary64)
  deriving DecidableEq, Repr

/-- A place on the number line with its two ends; finite places count the units of
double precision. -/
inductive Place where
  | low
  | at (units : Int)
  | high
  deriving DecidableEq, Repr

/-- Order of places. -/
def Place.compare : Place → Place → Ordering
  | .low, .low => .eq
  | .low, _ => .lt
  | .at _, .low => .gt
  | .at a, .at b => Ord.compare a b
  | .at _, .high => .lt
  | .high, .high => .eq
  | .high, _ => .gt

/-- The place of a double-precision number; a number that is none has no place. -/
def Binary64.place? : Binary64 → Option Place
  | .nan | .spelledNan => none
  | .infinite negative => some (if negative then .low else .high)
  | .finite negative units => some (.at (signedUnits negative units))

namespace Number

/-- The place of a number. -/
def place? : Number → Option Place
  | .int n => some (.at (n * Binary64.unitsPerOne))
  | .float x => x.place?

/-- Exact comparison; there is none with a number that has no place. -/
def compare? (a b : Number) : Option Ordering := do
  let p ← a.place?
  let q ← b.place?
  return p.compare q

/-- Whether two numbers are equal in value. -/
def same (a b : Number) : Bool := a.compare? b == some .eq

/-- Whether `a` is less than `b`. -/
def less (a b : Number) : Bool := a.compare? b == some .lt

/-- The double-precision number nearest to a number. -/
def toFloat? : Number → Option Binary64
  | .int n => Binary64.ofInt? n
  | .float x => some x

/-- Sum: exact for integers, rounded otherwise. There is none when an integer too
large for double precision meets a double-precision number. -/
def add? : Number → Number → Option Number
  | .int a, .int b => some (.int (a + b))
  | a, b => do
      let x ← a.toFloat?
      let y ← b.toFloat?
      return .float (x.add y)

/-- The mean over a positive count, rounded once. There is none when the sum is an
integer whose quotient exceeds double precision. -/
def mean? : Number → Nat → Option Binary64
  | .float x, n => some (x.divNat n)
  | .int a, n => (Binary64.ofRatio (a < 0) a.natAbs n).finite?

end Number

end JsonQuery
