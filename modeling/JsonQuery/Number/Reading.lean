import JsonQuery.Number.Basic
import JsonQuery.Text.Basic

/-!
Reading numbers from text: digit runs, and the decimal form of double-precision
numbers a person may type. Digits of every script count, underscores may stand
between two digits, and white space around the number is passed over.
-/

namespace JsonQuery

/-- The number a run of decimal digits of any script denotes; other characters are
passed over. -/
def natOfDigits (cs : List Char) : Nat :=
  cs.foldl (fun n c => match Text.digitValue? c with
    | some d => 10 * n + d
    | none => n) 0

namespace Binary64

/-- A blank that may surround a number: the separator controls of ASCII are none. -/
def surrounds (c : Char) : Bool :=
  Text.isBlank c && !(28 ≤ c.toNat && c.toNat ≤ 31)

/-- The text without its underscores, if each of them stands between two digits. -/
def joinDigits? (before : Option Char) : List Char → Option (List Char)
  | [] => some []
  | c :: rest =>
      if c == '_' then
        match before, rest with
        | some a, b :: _ =>
            if Text.isDecimal a && Text.isDecimal b then joinDigits? (some c) rest else none
        | _, _ => none
      else (joinDigits? (some c) rest).map (c :: ·)

/-- A sign and what follows it. -/
def splitSign : List Char → Bool × List Char
  | '+' :: rest => (false, rest)
  | '-' :: rest => (true, rest)
  | cs => (false, cs)

/-- The exponent written at the end of a number; no text means none. -/
def exponent? : List Char → Option Int
  | [] => some 0
  | c :: rest =>
      if c == 'e' || c == 'E' then
        let (negative, digits) := splitSign rest
        if digits.isEmpty || !digits.all Text.isDecimal then none
        else some (if negative then -(natOfDigits digits : Int) else natOfDigits digits)
      else none

/-- A number without sign: digits with at most one point among or around them, and
an exponent. -/
def ofUnsigned? (negative : Bool) (cs : List Char) : Option Binary64 :=
  let whole := cs.takeWhile Text.isDecimal
  let (fraction, rest) := match cs.dropWhile Text.isDecimal with
    | '.' :: rest => (rest.takeWhile Text.isDecimal, rest.dropWhile Text.isDecimal)
    | rest => ([], rest)
  if whole.isEmpty && fraction.isEmpty then none
  else (exponent? rest).map fun e =>
    ofDecimal negative (natOfDigits (whole ++ fraction)) (e - fraction.length)

/-- The double-precision number a text denotes: a decimal number, or one of the words
for infinity and for no number, in any case of letters. -/
def ofText? (s : String) : Option Binary64 := do
  let (negative, cs) := splitSign (Text.stripWhere surrounds s.toList)
  let word := String.ofList (cs.map Char.toLower)
  if word == "inf" || word == "infinity" then return .infinite negative
  if word == "nan" then return .nan
  ofUnsigned? negative (← joinDigits? none cs)

end Binary64

/-- The integer a text denotes, with a sign or without. -/
def intOfText? (s : String) : Option Int := do
  let (negative, cs) := Binary64.splitSign (Text.stripWhere Binary64.surrounds s.toList)
  let digits ← Binary64.joinDigits? none cs
  if digits.isEmpty || !digits.all Text.isDecimal then none
  else if integerDigitLimit < digits.length then none
  else return if negative then -(natOfDigits digits : Int) else natOfDigits digits

/-- The value of a character as a digit in a base of at most 16: a decimal digit of any
script, or one of the first letters. -/
def digitInBase? (base : Nat) (c : Char) : Option Nat :=
  ((Text.digitValue? c).orElse fun _ => Text.hexDigitValue? c).filter (· < base)

/-- The letter that may announce a base behind a zero. -/
def baseLetter? (base : Nat) : Option Char :=
  [(2, 'b'), (8, 'o'), (16, 'x')].lookup base

/-- The integer that a text without underscores denotes in a base of at most 16, with a sign
or without. The base may be announced. -/
def intInBase? (base : Nat) (s : String) : Option Int := do
  let (negative, cs) := Binary64.splitSign (Text.stripWhere Binary64.surrounds s.toList)
  let digits := match cs with
    | '0' :: letter :: rest => if baseLetter? base == some letter.toLower then rest else cs
    | _ => cs
  if digits.isEmpty then none
  let n ← digits.foldlM (fun n c => (digitInBase? base c).map (base * n + ·)) 0
  return if negative then -(n : Int) else n

end JsonQuery
