import JsonQuery.Text.Character
import JsonQuery.Text.Half

/-!
Plain operations on text: trimming, splitting into lines, padding and searching.
They work on lists of characters, so positions and lengths count code points.
-/

namespace JsonQuery.Text

/-- The characters without the ones satisfying `p` at either end. -/
def stripWhere (p : Char → Bool) (cs : List Char) : List Char :=
  ((cs.dropWhile p).reverse.dropWhile p).reverse

/-- The text without white space at either end. -/
def strip (s : String) : String := String.ofList (stripWhere isBlank s.toList)

/-- The text without white space at its end. -/
def stripRight (s : String) : String :=
  String.ofList (s.toList.reverse.dropWhile isBlank).reverse

/-- The number of code points. -/
def size (s : String) : Nat := s.toList.length

/-- What follows `start` in the characters, when they begin with it. -/
def dropPrefix? : List Char → List Char → Option (List Char)
  | [], cs => some cs
  | _ :: _, [] => none
  | p :: ps, c :: cs => if p == c then dropPrefix? ps cs else none

/-- Whether the characters begin with `start`. -/
def startsWith (start cs : List Char) : Bool := (dropPrefix? start cs).isSome

/-- Whether `part` occurs in the characters. -/
def occursIn (part : List Char) : List Char → Bool
  | [] => part.isEmpty
  | c :: cs => startsWith part (c :: cs) || occursIn part cs

/-- Whether `part` occurs in the text. -/
def contains (s part : String) : Bool := occursIn part.toList s.toList

/-- The characters split at every occurrence of a separator character. -/
def splitOn (sep : Char) : List Char → List (List Char)
  | [] => [[]]
  | c :: cs =>
      let parts := splitOn sep cs
      if c == sep then [] :: parts
      else match parts with
        | [] => [[c]]
        | part :: others => (c :: part) :: others

/-- What stands before the first occurrence of a character, and what stands behind it if
there is one. -/
def cutAt (sep : Char) (cs : List Char) : List Char × Option (List Char) :=
  match cs.dropWhile (· != sep) with
  | [] => (cs, none)
  | _ :: rest => (cs.takeWhile (· != sep), some rest)

/-- What stands before the last occurrence of a character, if there is one, and what
stands behind it. -/
def cutAtLast (sep : Char) (cs : List Char) : Option (List Char) × List Char :=
  let (last, others?) := cutAt sep cs.reverse
  (others?.map List.reverse, last.reverse)

/-- The lines of a text. A carriage return and the line feed behind it end one line,
and a text that ends with a line break has no empty last line. -/
def splitLines (cs : List Char) : List (List Char) :=
  go [] cs
where
  /-- The lines of the rest, the current one having the given characters so far in reverse. -/
  go (line : List Char) : List Char → List (List Char)
    | [] => if line.isEmpty then [] else [line.reverse]
    | '\r' :: '\n' :: rest => line.reverse :: go [] rest
    | c :: rest => if isLineBreak c then line.reverse :: go [] rest else go (c :: line) rest

/-- The text filled up with spaces on the right to a width. -/
def padRight (width : Nat) (cs : List Char) : List Char :=
  cs ++ List.replicate (width - cs.length) ' '

/-- The text filled up on the left to a width. -/
def padLeft (width : Nat) (fill : Char) (cs : List Char) : List Char :=
  List.replicate (width - cs.length) fill ++ cs

/-- Order of texts by their code points. -/
def compareChars : List Char → List Char → Ordering
  | [], [] => .eq
  | [], _ :: _ => .lt
  | _ :: _, [] => .gt
  | a :: as, b :: bs => (compare (codeOf a) (codeOf b)).then (compareChars as bs)

/-- Order of texts by their code points. -/
def compareText (a b : String) : Ordering := compareChars a.toList b.toList

/-- Sets of texts in the order of their code points. -/
def sortTexts (texts : List String) : List String :=
  texts.mergeSort fun a b => (compareText a b).isLE

/-- A number in hexadecimal digits of lower case, filled up with zeros to a width. -/
def hexadecimal (width n : Nat) : List Char := padLeft width '0' (Nat.toDigits 16 n)

end JsonQuery.Text
