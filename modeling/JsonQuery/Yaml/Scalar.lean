import JsonQuery.Fault
import JsonQuery.Text.Encoding
import JsonQuery.Yaml.Cursor

/-!
Scalars as they are written: plain, between quotes, or as a block of lines. Lines that a
scalar goes on over are folded into one: a single break becomes a space, and of several
breaks all but the first remain.
-/

namespace JsonQuery.Yaml

/-- Breaks between the lines of a folded scalar: the first one and the ones behind it. -/
def foldBreaks (first others : List Char) : List Char :=
  if first != ['\n'] then first ++ others
  else if others.isEmpty then [' '] else others

/-! ### Plain scalars -/

/-- Whether a plain scalar ends before these characters. -/
def endsPlain (inFlow : Bool) : List Char → Bool
  | [] => true
  | c :: rest =>
      isGap (some c) ||
      (c == ':' &&
        (isGap rest.head? || (inFlow && rest.head?.any ",[]\x7b\x7d".toList.contains))) ||
      (inFlow && ",?[]\x7b\x7d".toList.contains c)

/-- The number of characters up to the end of a plain scalar on its line. -/
def plainLength (inFlow : Bool) : List Char → Nat
  | [] => 0
  | c :: rest => if endsPlain inFlow (c :: rest) then 0 else plainLength inFlow rest + 1

/-- Blanks within a scalar: what they stand for, the place behind them, and whether they
lead to another line. -/
structure Blanks where
  text : List Char
  after : Cursor
  crossesLine : Bool

/-- The breaks of empty lines, with the spaces in them left out, and the place behind them;
no breaks at all where documents are parted. -/
def emptyLines : Nat → Cursor → List Char → Option (List Char) × Cursor
  | 0, k, _ => (none, k)
  | fuel + 1, k, breaks =>
      if k.next == some ' ' then emptyLines fuel k.step breaks
      else
        let (mark, after) := k.lineBreak
        if mark.isEmpty then (some breaks, k)
        else if after.atSeparator then (none, after)
        else emptyLines fuel after (breaks ++ mark)

/-- The blanks behind a piece of a plain scalar. -/
def plainBlanks (k : Cursor) : Blanks :=
  let spaces := k.ahead.takeWhile (· == ' ')
  let behind := k.skip spaces.length
  let (mark, after) := behind.lineBreak
  if mark.isEmpty then ⟨spaces, behind, false⟩
  else if after.atSeparator then ⟨[], after, true⟩
  else match emptyLines (after.ahead.length + 1) after [] with
    | (none, place) => ⟨[], place, true⟩
    | (some others, place) => ⟨foldBreaks mark others, place, true⟩

/-- A scalar that was read, with the place behind it and whether that is on a new line. -/
structure ScalarText where
  text : List Char
  after : Cursor
  crossesLine : Bool

/-- The plain scalar at a place. In block context it goes on over lines that are indented
more than `indent`. -/
def readPlain (inFlow : Bool) (indent : Int) (k : Cursor) : ScalarText :=
  go (k.ahead.length + 1) ⟨[], k, false⟩ []
where
  go : Nat → ScalarText → List Char → ScalarText
    | 0, read, _ => read
    | fuel + 1, read, blanks =>
        let k := read.after
        let length := plainLength inFlow k.ahead
        if k.next == some '#' || length == 0 then read
        else
          let text := read.text ++ blanks ++ k.ahead.take length
          let gap := plainBlanks (k.skip length)
          let next : ScalarText := ⟨text, gap.after, gap.crossesLine⟩
          if gap.text.isEmpty || gap.after.next == some '#' ||
              (!inFlow && (gap.after.column : Int) ≤ indent) then next
          else go fuel next gap.text

/-! ### Quoted scalars -/

/-- The breaks of empty lines within quotes and the place behind them. A mark that parts
documents must not stand there. -/
def quotedBreaks : Nat → Cursor → List Char → Option (List Char × Cursor)
  | 0, _, _ => none
  | fuel + 1, k, breaks =>
      if k.atSeparator then none
      else
        let behind := k.skipBlanks
        let (mark, after) := behind.lineBreak
        if mark.isEmpty then some (breaks, behind) else quotedBreaks fuel after (breaks ++ mark)

/-- What blanks within quotes stand for and the place behind them. -/
def quotedBlanks (k : Cursor) : Option (List Char × Cursor) :=
  let behind := k.skipBlanks
  let (mark, after) := behind.lineBreak
  if mark.isEmpty then
    some (k.ahead.take (behind.offset - k.offset), behind)
  else (quotedBreaks (after.ahead.length + 1) after []).map fun (others, place) =>
    (foldBreaks mark others, place)

/-- The character that a letter behind a backslash stands for. -/
def escapedChar? : Char → Option Char
  | '0' => some (Char.ofNat 0)
  | 'a' => some (Char.ofNat 7)
  | 'b' => some (Char.ofNat 8)
  | 't' | '\t' => some '\t'
  | 'n' => some '\n'
  | 'v' => some (Char.ofNat 11)
  | 'f' => some (Char.ofNat 12)
  | 'r' => some '\r'
  | 'e' => some (Char.ofNat 27)
  | ' ' => some ' '
  | '"' => some '"'
  | '\\' => some '\\'
  | '/' => some '/'
  | 'N' => some (Char.ofNat 0x85)
  | '_' => some (Char.ofNat 0xA0)
  | 'L' => some (Char.ofNat 0x2028)
  | 'P' => some (Char.ofNat 0x2029)
  | _ => none

/-- The number of hexadecimal digits behind a letter that announces a code point. -/
def escapeLength? : Char → Option Nat
  | 'x' => some 2
  | 'u' => some 4
  | 'U' => some 8
  | _ => none

/-- The number that hexadecimal digits denote. -/
def hexNumber? (digits : List Char) : Option Nat :=
  digits.foldlM (fun n c => (Text.hexDigitValue? c).map (16 * n + ·)) 0

/-- The character with a code point. -/
def charOfEscape (code : Nat) : Except Fault Char :=
  match Text.charOfCode? code with
  | some c => .ok c
  | none => .error (.noCodePoint (0x80000000 ≤ code))

/-- What is there, or a malformed text. -/
def demand {α : Type} : Option α → Except Fault α
  | some a => .ok a
  | none => .error .yaml

/-- What an escape stands for and the place behind it; the place given is behind the
backslash. -/
def readEscape (k : Cursor) : Except Fault (List Char × Cursor) := do
  let c ← demand k.next
  match escapedChar? c, escapeLength? c with
  | some image, _ => return ([image], k.step)
  | none, some length =>
      let digits := k.step.ahead.take length
      if digits.length != length then throw .yaml
      let image ← charOfEscape (← demand (hexNumber? digits))
      return ([image], k.step.skip length)
  | none, none =>
      let (mark, after) := k.lineBreak
      if mark.isEmpty then throw .yaml
      demand (quotedBreaks (after.ahead.length + 1) after [])

/-- The scalar between quotes; the place given is behind the opening quote. Only double
quotes allow escapes, and a single quote is written twice between single ones. -/
def readQuoted (double : Bool) (k : Cursor) : Except Fault ScalarText :=
  go (k.ahead.length + 1) k []
where
  go : Nat → Cursor → List Char → Except Fault ScalarText
    | 0, _, _ => .error .yaml
    | fuel + 1, k, text =>
        match k.ahead with
        | [] => .error .yaml
        | c :: rest =>
            if c == (if double then '"' else '\'') then
              if !double && rest.head? == some '\'' then go fuel (k.skip 2) (text ++ ['\''])
              else .ok ⟨text, k.step, false⟩
            else if double && c == '\\' then do
              let (image, after) ← readEscape k.step
              go fuel after (text ++ image)
            else if isGap (some c) then
              match quotedBlanks k with
              | some (blanks, after) => go fuel after (text ++ blanks)
              | none => .error .yaml
            else go fuel k.step (text ++ [c])

/-! ### Block scalars -/

/-- What becomes of the line breaks at the end of a block. -/
inductive Chomping where
  | strip
  | clip
  | keep
  deriving DecidableEq

/-- The sign that says what becomes of the last line breaks, and the place behind it. -/
def chompingSign (k : Cursor) : Option (Chomping × Cursor) :=
  match k.next with
  | some '+' => some (.keep, k.step)
  | some '-' => some (.strip, k.step)
  | _ => none

/-- The digit that says how far a block is indented, and the place behind it. -/
def indentDigit (k : Cursor) : Option (Nat × Cursor) := do
  let c ← k.next
  if Text.isAsciiDigit c then return (c.toNat - 48, k.step) else none

/-- The signs behind the indicator of a block: what becomes of its end, how far it is
indented if that is said, and the place of its first line. -/
def blockHeader? (k : Cursor) : Option (Chomping × Option Nat × Cursor) := do
  let (chomping, increment, k) := match chompingSign k with
    | some (chomping, k) =>
        match indentDigit k with
        | some (n, k) => (chomping, some n, k)
        | none => (chomping, none, k)
    | none =>
        match indentDigit k with
        | some (n, k) =>
            match chompingSign k with
            | some (chomping, k) => (chomping, some n, k)
            | none => (.clip, some n, k)
        | none => (.clip, none, k)
  if increment == some 0 then none
  if !(endsLine k.next || k.next == some ' ') then none
  let k := k.skipSpaces
  let k := if k.next == some '#' then k.skipLine else k
  if endsLine k.next then return (chomping, increment, k.lineBreak.2) else none

/-- The breaks of the empty lines before a block, the widest indentation among them and the
first line, and the place behind all blanks. -/
def blockStart : Nat → Cursor → List Char → Nat → List Char × Nat × Cursor
  | 0, k, breaks, widest => (breaks, widest, k)
  | fuel + 1, k, breaks, widest =>
      if k.next == some ' ' then blockStart fuel k.step breaks (max widest k.step.column)
      else
        let (mark, after) := k.lineBreak
        if mark.isEmpty then (breaks, widest, k) else blockStart fuel after (breaks ++ mark) widest

/-- The place behind the indentation of a line, as far as it goes. -/
def skipIndent (indent : Nat) (k : Cursor) : Cursor :=
  k.skip (min (indent - k.column) (k.ahead.takeWhile (· == ' ')).length)

/-- The breaks of empty lines within a block and the place behind the indentation that
follows. -/
def blockBreaks (indent : Nat) : Nat → Cursor → List Char → List Char × Cursor
  | 0, k, breaks => (breaks, k)
  | fuel + 1, k, breaks =>
      let k := skipIndent indent k
      let (mark, after) := k.lineBreak
      if mark.isEmpty then (breaks, k) else blockBreaks indent fuel after (breaks ++ mark)

/-- Blanks at the beginning of a line, which keep it from being folded. -/
def startsBlank (k : Cursor) : Bool := k.next == some ' ' || k.next == some '\t'

/-- The lines of a block: their text, the break behind the last one, the breaks of the
empty lines behind that, and the place behind all. -/
def blockLines (folded : Bool) (indent : Nat) :
    Nat → Cursor → List Char → List Char → List Char × List Char × List Char × Cursor
  | 0, k, text, breaks => (text, [], breaks, k)
  | fuel + 1, k, text, breaks =>
      if k.column != indent || k.ahead.isEmpty then (text, [], breaks, k)
      else
        let line := k.ahead.takeWhile (!isBreak ·)
        let text := text ++ breaks ++ line
        let (mark, after) := (k.skip line.length).lineBreak
        let (others, place) := blockBreaks indent (after.ahead.length + 1) after []
        if place.column == indent && !place.ahead.isEmpty then
          let joint :=
            if folded && mark == ['\n'] && !startsBlank k && !startsBlank place then
              if others.isEmpty then [' '] else []
            else mark
          blockLines folded indent fuel place (text ++ joint) others
        else (text, mark, others, place)

/-- The block scalar behind an indicator. Its lines are indented more than `indent`. -/
def readBlock (folded : Bool) (indent : Int) (k : Cursor) : Option ScalarText := do
  let (chomping, increment, first) ← blockHeader? k
  let least := max 1 (indent + 1).toNat
  let fuel := first.ahead.length + 1
  let (breaks, column, place) := match increment with
    | some n =>
        let column := least + n - 1
        let (breaks, place) := blockBreaks column fuel first []
        (breaks, column, place)
    | none =>
        let (breaks, widest, place) := blockStart fuel first [] 0
        (breaks, max least widest, place)
  let (text, mark, others, after) := blockLines folded column fuel place [] breaks
  let ending := match chomping with
    | .strip => []
    | .clip => mark
    | .keep => mark ++ others
  return ⟨text ++ ending, after, true⟩

end JsonQuery.Yaml
