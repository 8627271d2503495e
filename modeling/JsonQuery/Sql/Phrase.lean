import JsonQuery.Sql.Character

/-!
Keywords of one or more words that are read as a single lexeme. The words are separated
by any blanks, and the last one must end where the phrase ends. A query is later cut into
words again, so a phrase matters only where a single word would go on past its end.
-/

namespace JsonQuery.Sql

/-- The text behind a phrase whose words are given in capitals. -/
def dropPhrase? : List String → List Char → Option (List Char)
  | [], cs => some cs
  | [word], cs => dropKeyword? word.toList cs
  | word :: next :: words, cs => do
      let rest ← dropKeyword? word.toList cs
      dropPhrase? (next :: words) (← dropBlanks? rest)

/-- The length of the first phrase of a list that stands at the front of a text and ends
at a word's end. -/
def phraseLength? (phrases : List (List String)) (cs : List Char) : Option Nat :=
  phrases.findSome? fun phrase => do
    let rest ← dropPhrase? phrase cs
    if wordEnds rest then some (cs.length - rest.length) else none

/-- The keywords that are tried before any name. -/
def leadingKeywords : List (List String) :=
  [["CASE"], ["IN"], ["VALUES"], ["USING"], ["FROM"], ["AS"]]

/-- The ways to name a join. -/
def joinPhrases : List (List String) := [
  ["LEFT", "INNER", "JOIN"], ["LEFT", "OUTER", "JOIN"], ["LEFT", "STRAIGHT", "JOIN"],
  ["LEFT", "JOIN"],
  ["RIGHT", "INNER", "JOIN"], ["RIGHT", "OUTER", "JOIN"], ["RIGHT", "STRAIGHT", "JOIN"],
  ["RIGHT", "JOIN"],
  ["FULL", "INNER", "JOIN"], ["FULL", "OUTER", "JOIN"], ["FULL", "STRAIGHT", "JOIN"],
  ["FULL", "JOIN"],
  ["INNER", "JOIN"], ["OUTER", "JOIN"], ["STRAIGHT", "JOIN"],
  ["CROSS", "JOIN"], ["NATURAL", "JOIN"], ["JOIN"]]

/-- The phrases that are tried before those that hold a number or a quoted zone; of two
with a common beginning the longer one first. -/
def earlyPhrases : List (List String) := joinPhrases ++ [
  ["END", "IF"], ["END", "LOOP"], ["END", "WHILE"], ["END", "FOR"], ["END", "CASE"], ["END"],
  ["IF", "NOT", "EXISTS"], ["IF", "EXISTS"], ["NOT", "NULL"],
  ["ASC", "NULLS", "FIRST"], ["ASC", "NULLS", "LAST"], ["DESC", "NULLS", "FIRST"],
  ["DESC", "NULLS", "LAST"], ["ASC"], ["DESC"], ["NULLS", "FIRST"], ["NULLS", "LAST"],
  ["UNION", "ALL"], ["CREATE", "OR", "REPLACE"], ["CREATE"], ["DOUBLE", "PRECISION"],
  ["GROUP", "BY"], ["ORDER", "BY"], ["PRIMARY", "KEY"], ["HANDLER", "FOR"]]

/-- The phrases that are tried after those that hold a number, and before those that hold
a quoted zone. -/
def viewPhrases : List (List String) := [
  ["LATERAL", "VIEW", "EXPLODE"], ["LATERAL", "VIEW", "INLINE"],
  ["LATERAL", "VIEW", "PARSE_URL_TUPLE"], ["LATERAL", "VIEW", "POSEXPLODE"],
  ["LATERAL", "VIEW", "STACK"]]

/-- The phrases that compare texts. -/
def matchPhrases : List (List String) := [
  ["NOT", "LIKE"], ["NOT", "ILIKE"], ["NOT", "RLIKE"], ["LIKE"], ["ILIKE"], ["RLIKE"],
  ["NOT", "REGEXP", "BINARY"], ["NOT", "REGEXP"], ["REGEXP", "BINARY"], ["REGEXP"]]

/-- The length of a batch separator with its count. -/
def batchLength? (cs : List Char) : Option Nat := do
  let rest ← dropKeyword? ['G', 'O'] cs
  match rest with
  | blank :: digits =>
      let count := countWhile Text.isDecimal digits
      if Text.isBlank blank && 0 < count && wordEnds (digits.drop count) then some (3 + count)
      else none
  | [] => none

/-- The length of a time zone clause with its quoted zone. -/
def zoneLength? (cs : List Char) : Option Nat := do
  let rest ← (dropKeyword? ['A', 'T'] cs).orElse fun _ =>
    dropKeyword? ['W', 'I', 'T', 'H', '\''] cs
  let rest ← dropPhrase? ["TIME", "ZONE"] (← dropBlanks? rest)
  match ← dropBlanks? rest with
  | '\'' :: zone =>
      let count := countWhile (· != '\'') zone
      if 0 < count && count < zone.length then
        some (cs.length - (zone.drop (count + 1)).length)
      else none
  | _ => none

end JsonQuery.Sql
