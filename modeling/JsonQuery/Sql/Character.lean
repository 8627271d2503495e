import JsonQuery.Text.Basic

/-!
The characters query text is made of, and the pieces its rules are built from. Keywords
and names are read without regard to case, and that includes the few letters outside
ASCII whose lower or upper case is an ASCII letter.
-/

namespace JsonQuery.Sql

/-- A letter that can start a name: those of ASCII and of the Latin-1 block between the
first and the last capital, in either case, with their variants elsewhere. -/
def isNameStart (c : Char) : Bool :=
  if c.toNat < 128 then Text.isAsciiLetter c
  else
    let code := c.toNat
    (0xC0 ≤ code && code ≤ 0xDC) || (0xE0 ≤ code && code ≤ 0xF6) ||
      (0xF8 ≤ code && code ≤ 0xFC) || code == 0x130 || code == 0x131 || code == 0x17F ||
      code == 0x212A || code == 0x212B

/-- A character that must not follow a number: a letter that can start a name, or the
underscore. -/
def extendsNumber (c : Char) : Bool := isNameStart c || c == '_'

/-- Whether the character is the given capital letter of ASCII in any form. -/
def isLetter (capital c : Char) : Bool :=
  c.toUpper == capital ||
    (capital == 'I' && (c.toNat == 0x130 || c.toNat == 0x131)) ||
    (capital == 'K' && c.toNat == 0x212A) ||
    (capital == 'S' && c.toNat == 0x17F)

/-- Whether the text is at its end or goes on with a character satisfying `p`. -/
def endsOr (p : Char → Bool) : List Char → Bool
  | [] => true
  | c :: _ => p c

/-- Whether the text goes on with a character satisfying `p`. -/
def goesOn (p : Char → Bool) : List Char → Bool
  | [] => false
  | c :: _ => p c

/-- Whether a word that ends here is at its end. -/
def wordEnds (cs : List Char) : Bool := endsOr (fun c => !Text.isWord c) cs

/-- The number of leading characters satisfying `p`. -/
def countWhile (p : Char → Bool) (cs : List Char) : Nat := (cs.takeWhile p).length

/-- The text behind a keyword, given in capitals, at its front. -/
def dropKeyword? : List Char → List Char → Option (List Char)
  | [], cs => some cs
  | _ :: _, [] => none
  | k :: ks, c :: cs => if isLetter k c then dropKeyword? ks cs else none

/-- The text behind one or more blanks. -/
def dropBlanks? (cs : List Char) : Option (List Char) :=
  if goesOn Text.isBlank cs then some (cs.dropWhile Text.isBlank) else none

end JsonQuery.Sql
