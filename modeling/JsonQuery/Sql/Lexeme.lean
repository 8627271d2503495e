import JsonQuery.Sql.Numeral
import JsonQuery.Sql.Phrase
import JsonQuery.Text.Case

/-!
Lexemes of query text. At each place the rules are tried in a fixed order, and the first
one that matches decides how far the lexeme goes and what it is; a character that no rule
accepts is a lexeme of its own. Lexemes are consecutive pieces of the text, so together
they give back all of it. A rule sees the text ahead and the character behind.
-/

namespace JsonQuery.Sql

/-- What a lexeme is. -/
inductive LexemeKind where
  /-- White space. -/
  | space
  /-- A remark up to the end of the line or up to its closing mark. -/
  | remark
  /-- The asterisk. -/
  | star
  /-- A text between single, double or back quotes. -/
  | quoted
  /-- A number. -/
  | number
  /-- A bracket, comma, semicolon, colon or point. -/
  | punctuation
  /-- A name, a keyword or several keywords. -/
  | words
  /-- A name written with marks around or before it. -/
  | markedName
  /-- A comparison or arithmetic sign, or the division keyword. -/
  | operator
  /-- Anything else. -/
  | other
  deriving DecidableEq, Repr

/-- A rule answers the length of a lexeme at the front of a text, given the character
before it. -/
abbrev Rule := Option Char → List Char → Option Nat

/-- Whether the character behind satisfies `p`. -/
def behind (p : Char → Bool) : Option Char → Bool
  | none => false
  | some c => p c

/-- How many characters it takes to the end of a text behind its opening quote. A doubled
quote is part of the text. With `escapes` so is a quote behind a backslash, unless no
other quote closes the text. -/
def closingLength? (quote : Char) (escapes : Bool) : List Char → Option Nat
  | [] => none
  | c :: rest =>
      if c == quote then
        match rest with
        | d :: tail =>
            if d == quote then
              match closingLength? quote escapes tail with
              | some n => some (n + 2)
              | none => some 1
            else some 1
        | [] => some 1
      else if escapes && c == '\\' then
        match rest with
        | d :: tail =>
            if d == quote then
              match closingLength? quote escapes tail with
              | some n => some (n + 2)
              | none => some 2
            else (closingLength? quote escapes (d :: tail)).map (· + 1)
        | [] => none
      else (closingLength? quote escapes rest).map (· + 1)

/-- A text between quotes. -/
def quotedLength? (quote : Char) (escapes : Bool) : List Char → Option Nat
  | c :: rest => if c == quote then (closingLength? quote escapes rest).map (· + 1) else none
  | [] => none

/-- How many characters it takes to the end of the first occurrence of `mark`. -/
def throughMark? (mark : List Char) : List Char → Option Nat
  | [] => if mark.isEmpty then some 0 else none
  | c :: cs =>
      if Text.startsWith mark (c :: cs) then some mark.length
      else (throughMark? mark cs).map (· + 1)

/-- A text between two equal tags, each a name or nothing between dollar signs. -/
def dollarLength? : Rule := fun before cs =>
  match cs with
  | '$' :: rest =>
      if behind (fun c => Text.isWord c || c == '"' || c == '$') before then none
      else
        let tag := if goesOn extendsNumber rest then
            rest.take (1 + countWhile Text.isWord (rest.drop 1))
          else []
        match rest.drop tag.length with
        | '$' :: body =>
            let mark := '$' :: tag ++ ['$']
            (throughMark? mark body).map (· + mark.length)
        | _ => none
  | _ => none

/-- A remark between its opening and closing marks. -/
def blockRemarkLength? : Rule := fun _ cs =>
  match cs with
  | '/' :: '*' :: rest => (throughMark? ['*', '/'] rest).map (· + 2)
  | _ => none

/-- The length of a line with the break that ends it. -/
def lineLength : List Char → Nat
  | [] => 0
  | '\r' :: '\n' :: _ => 2
  | c :: cs => if c == '\r' || c == '\n' then 1 else lineLength cs + 1

/-- A remark up to the end of its line. -/
def lineRemarkLength? : Rule := fun _ cs =>
  match cs with
  | '-' :: '-' :: rest => some (2 + lineLength rest)
  | '#' :: ' ' :: rest => some (2 + lineLength rest)
  | _ => none

/-- One blank. -/
def blankLength? : Rule := fun _ cs =>
  if goesOn Text.isBlank cs then some 1 else none

/-- A fixed sign. -/
def signOf (sign : String) : Rule := fun _ cs =>
  if Text.startsWith sign.toList cs then some sign.toList.length else none

/-- The place of a value to be filled in: a percent sign and the letter S, with or without
a name in brackets between them. -/
def percentLength? : Rule := fun _ cs =>
  match cs with
  | '%' :: '(' :: rest =>
      let count := countWhile Text.isWord rest
      match rest.drop count with
      | ')' :: mark :: _ => if 0 < count && isLetter 'S' mark then some (4 + count) else none
      | _ => none
  | '%' :: mark :: _ => if isLetter 'S' mark then some 2 else none
  | _ => none

/-- A variable: a dollar sign or colon before a name, not behind a word. -/
def variableLength? : Rule := fun before cs =>
  match cs with
  | c :: rest =>
      let count := countWhile Text.isWord rest
      if (c == '$' || c == ':') && !behind Text.isWord before && 0 < count then some (1 + count)
      else none
  | [] => none

/-- A backslash before a word. -/
def commandLength? : Rule := fun _ cs =>
  match cs with
  | '\\' :: rest =>
      let count := countWhile Text.isWord rest
      if 0 < count then some (1 + count) else none
  | _ => none

/-- A name of at least two characters behind an at sign or one or two number signs. -/
def temporaryLength? : Rule := fun _ cs =>
  let mark := match cs with
    | '@' :: _ => 1
    | '#' :: '#' :: _ => 2
    | '#' :: _ => 1
    | _ => 0
  let rest := cs.drop mark
  let count := countWhile Text.isWord (rest.drop 1)
  if 0 < mark && goesOn isNameStart rest && 0 < count then some (mark + 1 + count) else none

/-- The length of a name. -/
def nameLength? (cs : List Char) : Option Nat :=
  if goesOn isNameStart cs then some (1 + countWhile Text.isWord (cs.drop 1)) else none

/-- Whether a point follows that does not start a fraction. -/
def pointFollows (cs : List Char) : Bool :=
  match cs.dropWhile Text.isBlank with
  | '.' :: rest => !goesOn Text.isDecimal rest
  | _ => false

/-- A name before a point, behind a point or before an opening bracket. -/
def qualifiedLength? : Rule := fun before cs => do
  let length ← nameLength? cs
  let rest := cs.drop length
  if pointFollows rest || behind (· == '.') before || goesOn (· == '(') rest then some length
  else none

/-- A name between square brackets, not behind a word or a closing bracket. -/
def bracketLength? : Rule := fun before cs =>
  match cs with
  | '[' :: rest =>
      let count := countWhile (fun c => c != '[' && c != ']') rest
      if !behind (fun c => Text.isWord c || c == ']' || c == ')') before && 0 < count &&
          goesOn (· == ']') (rest.drop count) then some (count + 2)
      else none
  | _ => none

/-- A word, which may go on with dollar and number signs. -/
def wordLength? (cs : List Char) : Option Nat :=
  if goesOn Text.isWord cs then
    some (1 + countWhile (fun c => Text.isWord c || c == '$' || c == '#') (cs.drop 1))
  else none

/-- Whether the word names division. -/
def isDivision (word : List Char) : Bool := Text.upper (String.ofList word) == "DIV"

/-- The word that names division. -/
def divisionLength? : Rule := fun _ cs => do
  let length ← wordLength? cs
  if isDivision (cs.take length) then some length else none

/-- A sign that is an operator on its own. -/
def arrowLength? : Rule := fun _ cs =>
  [['-', '>', '>'], ['-', '>'], ['#', '>', '>'], ['#', '>'], ['@', '>'], ['<', '@'], ['-'],
    ['#', '-']].findSome? fun sign => if Text.startsWith sign cs then some sign.length else none

/-- A run of one or more characters of a set. -/
def runOf (p : Char → Bool) : Rule := fun _ cs =>
  let count := countWhile p cs
  if 0 < count then some count else none

/-- All rules in the order in which they are tried. -/
def rules : List (LexemeKind × Rule) := [
  (.other, dollarLength?),
  (.remark, blockRemarkLength?),
  (.remark, lineRemarkLength?),
  (.space, blankLength?),
  (.other, signOf ":="),
  (.punctuation, signOf "::"),
  (.star, signOf "*"),
  (.quoted, fun _ => quotedLength? '\x60' false),
  (.markedName, fun _ => quotedLength? '´' false),
  (.markedName, signOf "?"),
  (.markedName, percentLength?),
  (.markedName, variableLength?),
  (.other, commandLength?),
  (.words, fun _ => phraseLength? leadingKeywords),
  (.markedName, temporaryLength?),
  (.words, qualifiedLength?),
  (.number, fun _ => numeralLength?),
  (.quoted, fun _ => quotedLength? '\'' true),
  (.quoted, fun _ => quotedLength? '"' true),
  (.markedName, bracketLength?),
  (.words, fun _ => phraseLength? earlyPhrases),
  (.words, fun _ => batchLength?),
  (.words, fun _ => phraseLength? viewPhrases),
  (.words, fun _ => zoneLength?),
  (.words, fun _ => phraseLength? matchPhrases),
  (.operator, divisionLength?),
  (.words, fun _ => wordLength?),
  (.punctuation, fun _ cs =>
    if goesOn (fun c => [';', ':', '(', ')', '[', ']', ',', '.'].contains c) cs then some 1
    else none),
  (.operator, arrowLength?),
  (.operator, runOf fun c => ['<', '>', '=', '~', '!'].contains c),
  (.operator, runOf fun c => ['+', '/', '@', '#', '%', '^', '&', '|', '-'].contains c)]

/-- What stands at the front of a text that is not empty, and how long it is. -/
def classify (before : Option Char) (cs : List Char) : LexemeKind × Nat :=
  (rules.findSome? fun rule => (rule.2 before cs).map fun length => (rule.1, length)).getD
    (.other, 1)

/-- A piece of query text with the number of characters before it. -/
structure Lexeme where
  kind : LexemeKind
  raw : List Char
  start : Nat
  deriving Repr

/-- The lexemes of a text. Every lexeme has at least one character, so the bound given
first, the length of the text, is never used up early. -/
def lexemesFrom : Nat → Option Char → Nat → List Char → List Lexeme
  | 0, _, _, _ => []
  | _ + 1, _, _, [] => []
  | fuel + 1, before, start, c :: cs =>
      let (kind, length) := classify before (c :: cs)
      let raw := c :: cs.take (length - 1)
      ⟨kind, raw, start⟩ ::
        lexemesFrom fuel raw.getLast? (start + raw.length) (cs.drop (length - 1))

/-- The lexemes of a text, in order. -/
def lexemes (cs : List Char) : List Lexeme := lexemesFrom cs.length none 0 cs

end JsonQuery.Sql
