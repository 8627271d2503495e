import JsonQuery.Sql.Character

/-!
Numbers in query text. A number without exponent must not run into a name; if it does,
its last digit is given up, and the shorter number stands if a digit is left. Each
function answers the length of the number at the front of a text.
-/

namespace JsonQuery.Sql

/-- The length of an optional minus sign. -/
def signLength : List Char → Nat
  | '-' :: _ => 1
  | _ => 0

/-- The length with the last of `count` digits given up if a name follows. At least
`least` digits are kept. -/
def trimRun? (least count length : Nat) (rest : List Char) : Option Nat :=
  if !goesOn extendsNumber rest then some length
  else if least < count then some (length - 1)
  else none

/-- A number in hexadecimal digits behind a zero and the letter X. -/
def hexadecimalLength? (cs : List Char) : Option Nat :=
  let sign := signLength cs
  match cs.drop sign with
  | '0' :: mark :: rest =>
      let count := countWhile (fun c => Text.isDecimal c ||
        (65 ≤ c.toUpper.toNat && c.toUpper.toNat ≤ 70)) rest
      if isLetter 'X' mark && 0 < count then some (sign + 2 + count) else none
  | _ => none

/-- A number with an exponent. -/
def scientificLength? (cs : List Char) : Option Nat :=
  let sign := signLength cs
  let body := cs.drop sign
  let whole := countWhile Text.isDecimal body
  let fraction := match body.drop whole with
    | '.' :: rest =>
        let count := countWhile Text.isDecimal rest
        if 0 < count then count + 1 else 0
    | _ => 0
  match body.drop (whole + fraction) with
  | mark :: rest =>
      let exponentSign := signLength rest
      let exponent := countWhile Text.isDecimal (rest.drop exponentSign)
      if 0 < whole && isLetter 'E' mark && 0 < exponent then
        some (sign + whole + fraction + 1 + exponentSign + exponent)
      else none
  | [] => none

/-- A number with a point, before or behind which digits may be missing. -/
def decimalLength? (cs : List Char) : Option Nat :=
  let sign := signLength cs
  let body := cs.drop sign
  let whole := countWhile Text.isDecimal body
  match body.drop whole with
  | '.' :: rest =>
      let count := countWhile Text.isDecimal rest
      if whole == 0 && count == 0 then none
      else trimRun? (if whole == 0 then 1 else 0) count (sign + whole + 1 + count)
        (rest.drop count)
  | _ => none

/-- A number of digits only. -/
def integerLength? (cs : List Char) : Option Nat :=
  let sign := signLength cs
  let body := cs.drop sign
  let count := countWhile Text.isDecimal body
  if count == 0 then none else trimRun? 1 count (sign + count) (body.drop count)

/-- A number of any form. -/
def numeralLength? (cs : List Char) : Option Nat :=
  (hexadecimalLength? cs).orElse fun _ =>
    (scientificLength? cs).orElse fun _ =>
      (decimalLength? cs).orElse fun _ => integerLength? cs

end JsonQuery.Sql
