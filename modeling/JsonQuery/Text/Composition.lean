import JsonQuery.Text.CompositionTable

/-!
Composed text: every letter is joined with the marks behind it as far as one character stands
for both, and the marks that stay are in their order. Texts are lists of code points here. A
text is composed when taking it apart and putting it together again does not change it.
-/

namespace JsonQuery.Text

/-- The place of a code point in the order of marks. All but marks have the place zero. -/
def markRank (code : Nat) : Nat :=
  match markOrders.find? fun order => order.first ≤ code && code ≤ order.last with
  | some order => order.rank
  | none => 0

/-- The parts of a syllable of Hangul: a leading consonant, a vowel and, in most of them, a
trailing consonant. -/
def hangulParts? (code : Nat) : Option (List Nat) :=
  if 0xAC00 ≤ code && code ≤ 0xD7A3 then
    let place := code - 0xAC00
    let trailing := place % 28
    some ((0x1100 + place / 588) :: (0x1161 + place / 28 % 21) ::
      if trailing == 0 then [] else [0x11A7 + trailing])
  else none

/-- The syllable of Hangul that two parts make. -/
def hangulSyllable? (first second : Nat) : Option Nat :=
  if 0x1100 ≤ first && first ≤ 0x1112 && 0x1161 ≤ second && second ≤ 0x1175 then
    some (0xAC00 + 588 * (first - 0x1100) + 28 * (second - 0x1161))
  else if 0xAC00 ≤ first && first ≤ 0xD7A3 && (first - 0xAC00) % 28 == 0 &&
      0x11A8 ≤ second && second ≤ 0x11C2 then
    some (first + (second - 0x11A7))
  else none

/-- The character that two make. -/
def composite? (first second : Nat) : Option Nat :=
  match hangulSyllable? first second with
  | some whole => some whole
  | none => (composites.find? fun c => c.first == first && c.second == second).map
      Composite.whole

/-- What a character consists of, taken apart as often as the given number allows. -/
def decompose : Nat → Nat → List Nat
  | 0, code => [code]
  | depth + 1, code =>
      match hangulParts? code with
      | some parts => parts
      | none =>
          match composites.find? fun c => c.whole == code with
          | some c => decompose depth c.first ++ [c.second]
          | none => [code]

/-- How often a composed character can be taken apart at most. -/
def compositionDepth : Nat := 3

/-- Puts a code point in front of others, behind those marks that come before it. -/
def insertMark (code : Nat) : List Nat → List Nat
  | [] => [code]
  | next :: rest =>
      if 0 < markRank next && markRank next < markRank code then next :: insertMark code rest
      else code :: next :: rest

/-- The code points with all marks in order. -/
def orderMarks (codes : List Nat) : List Nat := codes.foldr insertMark []

/-- How far the composition of a text has come: what is finished, in reverse; the letter that
may still take up a mark; and the marks behind it that it did not take up, in reverse. -/
structure Composing where
  finished : List Nat
  letter : Option Nat
  marks : List Nat

namespace Composing

/-- The code points so far in reverse. -/
def output (s : Composing) : List Nat := s.marks ++ s.letter.toList ++ s.finished

/-- Takes in the next code point. A mark that stays keeps those of its rank and of lower ones
from the letter. -/
def step (s : Composing) (code : Nat) : Composing :=
  let rank := markRank code
  let within := match s.marks with
    | [] => true
    | mark :: _ => markRank mark < rank
  match s.letter.bind fun letter => if within then composite? letter code else none with
  | some whole => { s with letter := some whole }
  | none =>
      if rank == 0 then ⟨s.output, some code, []⟩ else { s with marks := code :: s.marks }

end Composing

/-- The code points with letters and marks put together. -/
def compose (codes : List Nat) : List Nat :=
  (codes.foldl Composing.step ⟨[], none, []⟩).output.reverse

/-- Whether a text is composed. -/
def isComposed (codes : List Nat) : Bool :=
  !(codes.any fun code => replacedRanges.any (·.contains code)) &&
    compose (orderMarks (codes.flatMap (decompose compositionDepth))) == codes

end JsonQuery.Text
