import JsonQuery.Number.Reading
import JsonQuery.Text.Base64
import JsonQuery.Text.Case
import JsonQuery.Yaml.Basic
import JsonQuery.Yaml.Date

/-!
What a scalar means. A plain scalar is a truth value, a number, nothing, a moment or a text
by the way it is spelled; a tag may say the kind instead. Numbers may have underscores
between digits, and may be written in base 60 with colons between the digits.
-/

namespace JsonQuery.Yaml

/-- The kind of a scalar. -/
inductive ScalarKind where
  | null
  | bool
  | int
  | float
  | moment
  | text
  | bytes
  /-- The sign that merges mappings into one. -/
  | merge
  /-- The sign for the value of a mapping as a whole. -/
  | whole
  deriving DecidableEq, Repr

/-- The spellings of truth values in lower case, and their meaning. -/
def truthWords : List (String × Bool) := [
  ("yes", true), ("no", false), ("true", true), ("false", false), ("on", true), ("off", false)]

/-- Whether a word is in lower case, or in upper case, or begins with its only capital. -/
def isEvenlyCased (cs : List Char) : Bool :=
  let lower := cs.map Char.toLower
  let upper := cs.map Char.toUpper
  cs == lower || cs == upper || cs == upper.take 1 ++ lower.drop 1

/-- The truth value of a word. -/
def truth? (cs : List Char) : Option Bool :=
  if isEvenlyCased cs then truthWords.lookup (String.ofList (cs.map Char.toLower)) else none

/-- A sign, left out. -/
def dropSign : List Char → List Char
  | '+' :: rest => rest
  | '-' :: rest => rest
  | cs => cs

/-- Digits and underscores. -/
def isSpacedDigit (c : Char) : Bool := Text.isAsciiDigit c || c == '_'

/-- Digits in base 60: one digit, or two of which the first is below six. -/
def isSixtieth : List Char → Bool
  | [c] => Text.isAsciiDigit c
  | [c, d] => '0' ≤ c && c ≤ '5' && Text.isAsciiDigit d
  | _ => false

/-- A number in base 60 whose first digit is judged apart. -/
def isSixties (first : List Char → Bool) (cs : List Char) : Bool :=
  match Text.splitOn ':' cs with
  | head :: digits => first head && !digits.isEmpty && digits.all isSixtieth
  | [] => false

/-- A digit, and then digits and underscores. -/
def isSpacedNumber : List Char → Bool
  | c :: rest => Text.isAsciiDigit c && rest.all isSpacedDigit
  | [] => false

/-- Whether a text spells an integer. -/
def isInteger (cs : List Char) : Bool :=
  match dropSign cs with
  | ['0'] => true
  | '0' :: 'b' :: digits => !digits.isEmpty && digits.all fun c => c == '0' || c == '1' || c == '_'
  | '0' :: 'x' :: digits =>
      !digits.isEmpty && digits.all fun c => (Text.hexDigitValue? c).isSome || c == '_'
  | '0' :: digits => digits.all fun c => ('0' ≤ c && c ≤ '7') || c == '_'
  | digits => isSpacedNumber digits || isSixties isSpacedNumber digits

/-- Whether a text is the exponent of a number, or nothing. The sign is required. -/
def isExponent : List Char → Bool
  | [] => true
  | mark :: sign :: digits =>
      (mark == 'e' || mark == 'E') && (sign == '+' || sign == '-') && !digits.isEmpty &&
        digits.all Text.isAsciiDigit
  | _ => false

/-- Whether a text spells a number with a point. -/
def isFloat (cs : List Char) : Bool :=
  let body := dropSign cs
  let word := String.ofList (body.drop 1)
  match body with
  | '.' :: rest =>
      ["inf", "Inf", "INF"].contains word ||
      (body == cs && (["nan", "NaN", "NAN"].contains word ||
        (isSpacedNumber (rest.takeWhile isSpacedDigit) &&
          isExponent (rest.dropWhile isSpacedDigit))))
  | _ =>
      match Text.cutAt '.' body with
      | (whole, some rest) =>
          (isSpacedNumber whole && isExponent (rest.dropWhile isSpacedDigit)) ||
            (isSixties isSpacedNumber whole && rest.all isSpacedDigit)
      | (_, none) => false

/-- The characters without the line feed at their end, if others stand before it. -/
def dropLastBreak (cs : List Char) : List Char :=
  if 1 < cs.length && cs.getLast? == some '\n' then cs.dropLast else cs

/-- The kind of a plain scalar. A line feed at its end does not count. -/
def kindOfPlain (text : List Char) : ScalarKind :=
  let cs := dropLastBreak text
  if (truth? cs).isSome then .bool
  else if isFloat cs then .float
  else if isInteger cs then .int
  else if cs == ['<', '<'] then .merge
  else if ["", "~", "null", "Null", "NULL"].contains (String.ofList cs) then .null
  else if (dayOf? 2 cs).isSome || (timeOf? cs).isSome then .moment
  else if cs == ['='] then .whole
  else .text

/-- The beginning of the tags of the usual kinds. -/
def usualTag : String := "tag:yaml.org,2002:"

/-- The kind of what a node stands for. -/
inductive NodeKind where
  | scalar (kind : ScalarKind)
  | sequence
  | mapping
  | set
  | pairs
  deriving DecidableEq, Repr

/-- The kinds that tags say, by the ends of the tags. -/
def taggedKinds : List (String × NodeKind) := [
  ("null", .scalar .null), ("bool", .scalar .bool), ("int", .scalar .int),
  ("float", .scalar .float), ("timestamp", .scalar .moment), ("str", .scalar .text),
  ("binary", .scalar .bytes), ("merge", .scalar .merge), ("value", .scalar .whole),
  ("seq", .sequence), ("map", .mapping), ("set", .set), ("omap", .pairs), ("pairs", .pairs)]

/-- The kind that a tag says. -/
def kindOfTag? (tag : String) : Option NodeKind := do
  let ending ← Text.dropPrefix? usualTag.toList tag.toList
  taggedKinds.lookup (String.ofList ending)

/-- The integer that digits denote in a base other than ten. -/
def integerInBase (base : Nat) (digits : List Char) : Except Fault Int :=
  match intInBase? base (String.ofList digits) with
  | some n => .ok n
  | none => .error (.notInteger base (String.ofList digits))

/-- The integer that decimal digits denote. -/
def decimalInteger (digits : List Char) : Except Fault Int :=
  if digits.all Text.isAsciiDigit && integerDigitLimit < digits.length then
    .error (.integerTooLongToRead digits.length)
  else match intOfText? (String.ofList digits) with
    | some n => .ok n
    | none => .error (.notInteger 10 (String.ofList digits))

/-- The integer a scalar denotes. -/
def integerOf (text : List Char) : Except Fault Int := do
  let cs := text.filter (· != '_')
  let sign : Int := if cs.head? == some '-' then -1 else 1
  match dropSign cs with
  | [] => .error .noNumber
  | ['0'] => return 0
  | '0' :: 'b' :: digits => return sign * (← integerInBase 2 digits)
  | '0' :: 'x' :: digits => return sign * (← integerInBase 16 digits)
  | '0' :: digits => return sign * (← integerInBase 8 ('0' :: digits))
  | cs =>
      let digits ← (Text.splitOn ':' cs).mapM decimalInteger
      return sign * digits.foldl (fun n d => 60 * n + d) 0

/-- A number times a natural number, which is rounded first. -/
def timesNat (x : Binary64) (n : Nat) : Except Fault Binary64 :=
  match x, Binary64.ofInt? n with
  | .finite negative units, some (.finite _ factor) =>
      .ok (.ofUnits negative (units * factor) Binary64.unitsPerOne)
  | x, some _ => .ok x
  | _, none => .error .integerExceedsFloat

/-- A number with the other sign. -/
def opposite : Binary64 → Binary64
  | .finite negative units => .finite (!negative) units
  | .infinite negative => .infinite (!negative)
  | .nan | .spelledNan => .nan

/-- The number that digits in base 60 denote, the last one first; `base` is what the first
one counts, and `sum` what there is already. -/
def sumOfSixties (sum : Binary64) (base : Nat) : List Binary64 → Except Fault Binary64
  | [] => .ok sum
  | digit :: digits => do sumOfSixties (sum.add (← timesNat digit base)) (60 * base) digits

/-- The number with a point that a scalar denotes. Digits in base 60 are added up from the
last one on. -/
def floatOf (text : List Char) : Except Fault Binary64 := do
  let cs := (Text.lower (String.ofList (text.filter (· != '_')))).toList
  if cs.isEmpty then throw .noNumber
  let signed (x : Binary64) : Binary64 := if cs.head? == some '-' then opposite x else x
  let body := dropSign cs
  let number (cs : List Char) : Except Fault Binary64 :=
    match Binary64.ofText? (String.ofList cs) with
    | some x => .ok x
    | none => .error (.notNumber (String.ofList cs))
  if body == ".inf".toList then return signed (.infinite false)
  if body == ".nan".toList then return .nan
  match Text.splitOn ':' body with
  | [digits] => return signed (← number digits)
  | parts => return signed (← sumOfSixties Binary64.zero 1 (← parts.mapM number).reverse)

/-- The moment a scalar denotes. -/
def momentOf (text : List Char) : Except Fault YamlScalar := do
  let cs := dropLastBreak text
  match dayOf? 1 cs, timeOf? cs with
  | some day, _ =>
      day.check
      return .day day.text
  | none, some (day, clock) =>
      clock.checkZone
      day.check
      clock.check
      return .time (day.text ++ " " ++ clock.text)
  | none, none => .error .notMoment

/-- The truth value a scalar denotes. -/
def truthOf (text : List Char) : Except Fault Bool :=
  let word := Text.lower (String.ofList text)
  match truthWords.lookup word with
  | some b => .ok b
  | none => .error (.notTruth word)

/-- The bytes a scalar denotes. -/
def bytesOf (text : List Char) : Except Fault (List UInt8) :=
  match Text.decodeBase64? text with
  | some octets => if text.all fun c => c.toNat < 128 then .ok octets else .error .yaml
  | none => .error .yaml

/-- The scalar that a text denotes as a scalar of a kind. -/
def scalarOf (kind : ScalarKind) (text : List Char) : Except Fault YamlScalar := do
  match kind with
  | .null => return .value .null
  | .bool => return .value (.bool (← truthOf text))
  | .int => return .value (Value.ofInt (← integerOf text))
  | .float => return .value (Value.ofFloat (← floatOf text))
  | .moment => momentOf text
  | .text => return .value (.string (String.ofList text))
  | .bytes => return .bytes (← bytesOf text)
  | .merge | .whole => .error .yaml

end JsonQuery.Yaml
