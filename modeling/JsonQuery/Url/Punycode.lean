import JsonQuery.Text.Basic

/-!
Names beyond ASCII written in ASCII by the method of RFC 3492: the ASCII characters come
first, and every other character follows as the distance, in the order of code points and
places, from the one before it. Distances are numbers in base 36 with digits of growing
weight, whose thresholds adapt to the distances seen so far.
-/

namespace JsonQuery.Punycode

/-- The digit of a value below 36. -/
def digit (n : Nat) : Char := Char.ofNat (if n < 26 then 97 + n else 22 + n)

/-- The threshold of the digit at a place, counted in steps of 36. -/
def threshold (bias place : Nat) : Nat := max 1 (min 26 (place - bias))

/-- The digits of a distance from a place on. -/
def digits (bias place n : Nat) : List Char :=
  let t := threshold bias place
  if n < t then [digit n]
  else digit (t + (n - t) % (36 - t)) :: digits bias (place + 36) ((n - t) / (36 - t))
termination_by n
decreasing_by
  have : 1 ≤ t := Nat.le_max_left ..
  have : (n - t) / (36 - t) ≤ n - t := Nat.div_le_self ..
  show (n - t) / (36 - t) < n
  omega

/-- The bias that fits a distance which was divided by 35 the given number of times. -/
def settle (delta steps : Nat) : Nat :=
  if h : 455 < delta then settle (delta / 35) (steps + 1)
  else 36 * steps + 36 * delta / (delta + 38)
termination_by delta
decreasing_by exact Nat.div_lt_self (by omega) (by omega)

/-- The bias after a distance, with the number of characters written by then. -/
def adapt (delta count : Nat) (first : Bool) : Nat :=
  let damped := if first then delta / 700 else delta / 2
  settle (damped + damped / count) 0

/-- How far the writing has come: the distance so far, the bias, the number of characters
written and the digits in reverse. -/
structure Progress where
  delta : Nat
  bias : Nat
  count : Nat
  output : List Char

/-- The progress over one character of the name while those with a code point are written. -/
def Progress.over (basic code : Nat) (p : Progress) (c : Char) : Progress :=
  if c.toNat < code then { p with delta := p.delta + 1 }
  else if c.toNat == code then
    ⟨0, adapt p.delta (p.count + 1) (p.count == basic), p.count + 1,
      (digits p.bias 36 p.delta).reverse ++ p.output⟩
  else p

/-- Writes the characters with the given code points, in ascending order. -/
def Progress.writeAll (basic : Nat) (name : List Char) :
    Nat → Progress → List Nat → Progress
  | _, p, [] => p
  | next, p, code :: codes =>
      let start := { p with delta := p.delta + (code - next) * (p.count + 1) }
      let reached := name.foldl (Progress.over basic code) start
      writeAll basic name (code + 1) { reached with delta := reached.delta + 1 } codes

/-- The name in ASCII, without the mark that tells such names apart. -/
def encode (name : List Char) : List Char :=
  let basic := name.filter (·.toNat < 128)
  let codes := ((name.map Char.toNat).filter (128 ≤ ·)).eraseDups.mergeSort
  let start : Progress := ⟨0, 72, basic.length, []⟩
  let written := start.writeAll basic.length name 128 codes
  basic ++ (if basic.isEmpty then [] else ['-']) ++ written.output.reverse

/-- The value of a digit of either case. -/
def digitValue? (c : Char) : Option Nat :=
  if 97 ≤ c.toNat && c.toNat ≤ 122 then some (c.toNat - 97)
  else if 65 ≤ c.toNat && c.toNat ≤ 90 then some (c.toNat - 65)
  else if Text.isAsciiDigit c then some (c.toNat - 22)
  else none

/-- How far the reading has come: the number of the distance that is being read so far, the
weight and the place of its next digit, the bias, the distances so far, and the characters
with the place behind the last one put in. -/
structure Recovery where
  delta : Nat
  weight : Nat
  place : Nat
  bias : Nat
  code : Nat
  index : Nat
  name : List Char

/-- Puts in the character that a finished distance tells of. -/
def Recovery.insert? (s : Recovery) : Option Recovery :=
  let index := s.index + s.delta
  let length := s.name.length + 1
  let code := s.code + index / length
  if 0x10FFFF < code then none
  else
    let place := index % length
    some ⟨0, 1, 36, adapt s.delta length (s.index == 0), code, place + 1,
      s.name.take place ++ Text.charOf code :: s.name.drop place⟩

/-- Takes in the next digit. The first one below its threshold ends a distance. -/
def Recovery.step? (s : Recovery) (c : Char) : Option Recovery := do
  let value ← digitValue? c
  let t := threshold s.bias s.place
  let read := { s with delta := s.delta + value * s.weight }
  if value < t then read.insert?
  else return { read with weight := s.weight * (36 - t), place := s.place + 36 }

/-- The name that a text in ASCII stands for, if it stands for one. -/
def decode? (text : List Char) : Option (List Char) := do
  let (basic, distances) := Text.cutAtLast '-' text
  let start : Recovery := ⟨0, 1, 36, 72, 128, 0, basic.getD []⟩
  let last ← distances.foldlM Recovery.step? start
  if last.place == 36 then some last.name else none

end JsonQuery.Punycode
