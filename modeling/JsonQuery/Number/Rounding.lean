/-!
Rounding a quotient of natural numbers to the nearest whole number. Every
conversion between decimal and binary numbers in this library comes down to one
exact quotient and one rounding of it.
-/

namespace JsonQuery

/-- A power of two. -/
def powerOfTwo (n : Nat) : Nat := Nat.pow 2 n

/-- A power of ten. -/
def powerOfTen (n : Nat) : Nat := Nat.pow 10 n

/-- The whole number nearest to `num / den`; of two equally near ones the even one. -/
def roundHalfEven (num den : Nat) : Nat :=
  let quotient := num / den
  let rest := num % den
  if 2 * rest < den then quotient
  else if den < 2 * rest then quotient + 1
  else if quotient % 2 == 0 then quotient else quotient + 1

/-- The number of binary digits of `n`, zero for zero. -/
def bitLength (n : Nat) : Nat := if n == 0 then 0 else Nat.log2 n + 1

/-- The number of decimal digits of `n`, one for zero. -/
def decimalLength (n : Nat) : Nat := (Nat.toDigits 10 n).length

end JsonQuery
