import JsonQuery.Fault
import JsonQuery.Number.Reading
import JsonQuery.Value.Basic

/-!
Reading JSON text. Besides the standard the reader takes the three words for
numbers that are not finite. A number without fraction and exponent is an integer of
any size up to the digit limit; of repeated keys the last value counts, at the place of the first.
Every function consumes a list of characters and answers with the rest, and a
problem carries the rest at the place where it was noticed.
-/

namespace JsonQuery.Json

/-- Why a text is not JSON: a problem and the text left at its place, or an integer
with too many digits. -/
inductive ReadFault where
  | malformed (problem : JsonProblem) (rest : List Char)
  | integerTooLong (digits : Nat)

/-- The result of reading from a text. -/
abbrev Reading := Except ReadFault

/-- White space between the parts of a JSON text. -/
def isSpace (c : Char) : Bool := c == ' ' || c == '\t' || c == '\n' || c == '\r'

/-- The text behind leading white space. -/
def skipSpace (cs : List Char) : List Char := cs.dropWhile isSpace

/-- The number four hexadecimal digits denote. -/
def hexQuad? (a b c d : Char) : Option Nat := do
  let a ← Text.hexDigitValue? a
  let b ← Text.hexDigitValue? b
  let c ← Text.hexDigitValue? c
  let d ← Text.hexDigitValue? d
  return ((a * 16 + b) * 16 + c) * 16 + d

/-- The character a single letter behind a backslash stands for. -/
def simpleEscape? : Char → Option Char
  | '"' => some '"'
  | '\\' => some '\\'
  | '/' => some '/'
  | 'b' => some '\x08'
  | 'f' => some '\x0c'
  | 'n' => some '\n'
  | 'r' => some '\r'
  | 't' => some '\t'
  | _ => none

/-- The code points of first halves. -/
def isHighSurrogate (n : Nat) : Bool := 0xD800 ≤ n && n ≤ 0xDBFF

/-- The code points of second halves. -/
def isLowSurrogate (n : Nat) : Bool := 0xDC00 ≤ n && n ≤ 0xDFFF

/-- The characters of a string up to its closing quote. `opening` is the text from
the opening quote on. -/
def stringBody (opening : List Char) : Nat → List Char → List Char → Reading (String × List Char)
  | 0, _, _ => .error (.malformed .unterminatedString opening)
  | fuel + 1, done, cs =>
      match cs with
      | [] => .error (.malformed .unterminatedString opening)
      | '"' :: rest => .ok (String.ofList done.reverse, rest)
      | '\\' :: rest =>
          match rest with
          | [] => .error (.malformed .unterminatedString opening)
          | 'u' :: digits =>
              match digits with
              | a :: b :: c :: d :: next :: tail =>
                  match hexQuad? a b c d with
                  | none => .error (.malformed .invalidUnicodeEscape rest)
                  | some high =>
                      let single := Text.charOf high :: done
                      if isHighSurrogate high then
                        match next :: tail with
                        | '\\' :: 'u' :: e :: f :: g :: h :: after =>
                            if after.isEmpty then stringBody opening fuel single (next :: tail)
                            else match hexQuad? e f g h with
                              | none => .error (.malformed .invalidUnicodeEscape tail)
                              | some low =>
                                  if isLowSurrogate low then
                                    let code := 0x10000 + (high - 0xD800) * 0x400 + (low - 0xDC00)
                                    stringBody opening fuel (Char.ofNat code :: done) after
                                  else stringBody opening fuel single (next :: tail)
                        | _ => stringBody opening fuel single (next :: tail)
                      else stringBody opening fuel single (next :: tail)
              | _ => .error (.malformed .invalidUnicodeEscape rest)
          | c :: tail =>
              match simpleEscape? c with
              | some image => stringBody opening fuel (image :: done) tail
              | none => .error (.malformed .invalidEscape cs)
      | c :: rest =>
          if c.toNat < 0x20 then .error (.malformed .invalidControl cs)
          else stringBody opening fuel (c :: done) rest

/-- A string, from its opening quote on. -/
def string (cs : List Char) : Reading (String × List Char) :=
  stringBody cs cs.length [] (cs.drop 1)

/-- A fraction at the front of a text: its digits and the rest. -/
def fraction (cs : List Char) : List Char × List Char :=
  match cs with
  | '.' :: rest =>
      let digits := rest.takeWhile Text.isAsciiDigit
      if digits.isEmpty then ([], cs) else (digits, rest.drop digits.length)
  | _ => ([], cs)

/-- An exponent at the front of a text, if there is one, and the rest. -/
def exponent (cs : List Char) : Option Int × List Char :=
  match cs with
  | mark :: rest =>
      if mark == 'e' || mark == 'E' then
        let (negative, tail) := match rest with
          | '+' :: tail => (false, tail)
          | '-' :: tail => (true, tail)
          | tail => (false, tail)
        let digits := tail.takeWhile Text.isAsciiDigit
        if digits.isEmpty then (none, cs)
        else
          let size : Int := natOfDigits digits
          (some (if negative then -size else size), tail.drop digits.length)
      else (none, cs)
  | [] => (none, cs)

/-- A number whose sign has been read. `start` is the text from the sign on. -/
def unsignedNumber (start : List Char) (negative : Bool) (cs : List Char) :
    Reading (Value × List Char) :=
  let whole := match cs with
    | '0' :: _ => ['0']
    | _ => cs.takeWhile Text.isAsciiDigit
  if whole.isEmpty then .error (.malformed .expectedValue start)
  else
    let (decimals, rest) := fraction (cs.drop whole.length)
    let (power, rest) := exponent rest
    if decimals.isEmpty && power.isNone then
      if integerDigitLimit < whole.length then .error (.integerTooLong whole.length)
      else
        let n : Int := natOfDigits whole
        .ok (Value.ofInt (if negative then -n else n), rest)
    else
      let digits := natOfDigits (whole ++ decimals)
      .ok (Value.ofFloat (Binary64.ofDecimal negative digits (power.getD 0 - decimals.length)),
        rest)

/-- A value that is not a string, an array or an object. -/
def scalar (cs : List Char) : Reading (Value × List Char) :=
  match cs with
  | 'n' :: 'u' :: 'l' :: 'l' :: rest => .ok (.null, rest)
  | 't' :: 'r' :: 'u' :: 'e' :: rest => .ok (.bool true, rest)
  | 'f' :: 'a' :: 'l' :: 's' :: 'e' :: rest => .ok (.bool false, rest)
  | 'N' :: 'a' :: 'N' :: rest => .ok (Value.ofFloat .spelledNan, rest)
  | 'I' :: 'n' :: 'f' :: 'i' :: 'n' :: 'i' :: 't' :: 'y' :: rest =>
      .ok (Value.ofFloat (.infinite false), rest)
  | '-' :: 'I' :: 'n' :: 'f' :: 'i' :: 'n' :: 'i' :: 't' :: 'y' :: rest =>
      .ok (Value.ofFloat (.infinite true), rest)
  | '-' :: rest => unsignedNumber cs true rest
  | _ => unsignedNumber cs false cs

mutual

/-- A value at the front of a text without leading white space. -/
def value : Nat → List Char → Reading (Value × List Char)
  | 0, cs => .error (.malformed .expectedValue cs)
  | fuel + 1, cs =>
      match cs with
      | '"' :: _ => do
          let (s, rest) ← string cs
          return (.string s, rest)
      | '[' :: rest =>
          match skipSpace rest with
          | ']' :: rest => .ok (.array [], rest)
          | rest => do
              let (items, rest) ← items fuel rest
              return (.array items, rest)
      | '\x7b' :: rest =>
          match skipSpace rest with
          | '\x7d' :: rest => .ok (.object [], rest)
          | rest => do
              let (members, rest) ← members fuel rest
              return (.object (Record.putAll [] members), rest)
      | _ => scalar cs

/-- The items of an array from the next item to the closing bracket. -/
def items : Nat → List Char → Reading (List Value × List Char)
  | 0, cs => .error (.malformed .expectedValue cs)
  | fuel + 1, cs => do
      let (item, rest) ← value fuel cs
      match skipSpace rest with
      | ']' :: rest => return ([item], rest)
      | ',' :: rest =>
          let (others, rest) ← items fuel (skipSpace rest)
          return (item :: others, rest)
      | rest => .error (.malformed .expectedComma rest)

/-- The members of an object from the next member to the closing brace. -/
def members : Nat → List Char → Reading (List (String × Value) × List Char)
  | 0, cs => .error (.malformed .expectedName cs)
  | fuel + 1, cs =>
      match cs with
      | '"' :: _ => do
          let (key, rest) ← string cs
          match skipSpace rest with
          | ':' :: rest =>
              let (item, rest) ← value fuel (skipSpace rest)
              match skipSpace rest with
              | '\x7d' :: rest => return ([(key, item)], rest)
              | ',' :: rest =>
                  let (others, rest) ← members fuel (skipSpace rest)
                  return ((key, item) :: others, rest)
              | rest => .error (.malformed .expectedComma rest)
          | rest => .error (.malformed .expectedColon rest)
      | _ => .error (.malformed .expectedName cs)

end

/-- The position at which `rest` is left of a text. -/
def position (text rest : List Char) : TextPosition :=
  let offset := text.length - rest.length
  let before := text.take offset
  let lastLine := before.reverse.takeWhile (· != '\n')
  ⟨before.count '\n' + 1, lastLine.length + 1, offset⟩

/-- The value a whole text denotes, or the place where reading it failed. -/
def readChars (cs : List Char) : Reading Value := do
  if cs.head? == some '\uFEFF' then .error (.malformed .byteOrderMark cs)
  else
    let (v, rest) ← value (2 * cs.length + 2) (skipSpace cs)
    match skipSpace rest with
    | [] => return v
    | rest => .error (.malformed .extraData rest)

/-- The value a text denotes. -/
def read (text : String) : Except Fault Value :=
  let cs := text.toList
  match readChars cs with
  | .ok v => .ok v
  | .error (.malformed problem rest) => .error (.json problem (position cs rest))
  | .error (.integerTooLong digits) => .error (.integerTooLongToRead digits)

end JsonQuery.Json
