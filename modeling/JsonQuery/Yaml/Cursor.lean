import JsonQuery.Text.Basic

/-!
A place in a text that is read as YAML. Layout carries meaning, so a place knows its line
and its column; a byte order mark takes up no column.
-/

namespace JsonQuery.Yaml

/-- Characters that end a line. -/
def isBreak (c : Char) : Bool :=
  c == '\n' || c == '\r' || c.toNat == 0x85 || c.toNat == 0x2028 || c.toNat == 0x2029

/-- The end of a line or of the text. -/
def endsLine : Option Char → Bool
  | none => true
  | some c => isBreak c

/-- What may follow an indicator: a blank, or the end of a line or of the text. -/
def isGap : Option Char → Bool
  | none => true
  | some c => c == ' ' || c == '\t' || isBreak c

/-- A place in a text. -/
structure Cursor where
  ahead : List Char
  offset : Nat
  line : Nat
  column : Nat

namespace Cursor

/-- The beginning of a text. -/
def start (text : List Char) : Cursor := ⟨text, 0, 0, 0⟩

/-- The character at a distance. -/
def peek (k : Cursor) (distance : Nat) : Option Char := k.ahead[distance]?

/-- The next character. -/
def next (k : Cursor) : Option Char := k.ahead.head?

/-- The place behind the next character. -/
def step (k : Cursor) : Cursor :=
  match k.ahead with
  | [] => k
  | c :: rest =>
      if isBreak c && !(c == '\r' && rest.head? == some '\n') then
        ⟨rest, k.offset + 1, k.line + 1, 0⟩
      else if c.toNat == 0xFEFF then ⟨rest, k.offset + 1, k.line, k.column⟩
      else ⟨rest, k.offset + 1, k.line, k.column + 1⟩

/-- The place behind a number of characters. -/
def skip (k : Cursor) : Nat → Cursor
  | 0 => k
  | n + 1 => k.step.skip n

/-- The place behind all next characters of a kind. -/
def skipWhile (k : Cursor) (p : Char → Bool) : Cursor := k.skip (k.ahead.takeWhile p).length

/-- The place behind blanks and tabulators. -/
def skipBlanks (k : Cursor) : Cursor := k.skipWhile fun c => c == ' ' || c == '\t'

/-- The place behind spaces. -/
def skipSpaces (k : Cursor) : Cursor := k.skipWhile (· == ' ')

/-- The place at the end of the line. -/
def skipLine (k : Cursor) : Cursor := k.skipWhile (!isBreak ·)

/-- What a line break at the place stands for, nothing if there is none, and the place
behind it. -/
def lineBreak (k : Cursor) : List Char × Cursor :=
  match k.ahead with
  | '\r' :: '\n' :: _ => (['\n'], k.skip 2)
  | c :: _ =>
      if c == '\n' || c == '\r' || c.toNat == 0x85 then (['\n'], k.step)
      else if isBreak c then ([c], k.step)
      else ([], k)
  | [] => ([], k)

/-- Whether three characters that part documents stand at the place. -/
def atSeparator (k : Cursor) : Bool :=
  let mark := k.ahead.take 3
  (mark == ['-', '-', '-'] || mark == ['.', '.', '.']) && isGap (k.peek 3)

end Cursor

end JsonQuery.Yaml
