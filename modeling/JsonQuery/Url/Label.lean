import JsonQuery.Text.Composition
import JsonQuery.Text.Direction
import JsonQuery.Url.Problem
import JsonQuery.Url.Punycode

/-!
The labels of a name of a host, beyond ASCII or in the ASCII form that stands for such a
label. A label is judged by its form as a whole first, then character by character, and last
by the directions in which its characters are written.
-/

namespace JsonQuery

/-- A label as its code points. -/
abbrev LabelCodes := List Nat

namespace LabelCodes

/-- Marks that bind the letter before them to the one behind them. -/
def isBinding (code : Nat) : Bool := Text.markRank code == 9

/-- Whether the first letter of a list that joining does not pass over is one of two kinds. -/
def reaches (kinds : List Text.Joining) (codes : LabelCodes) : Bool :=
  match (codes.map Text.joiningOf).find? (· != .transparent) with
  | some kind => kinds.contains kind
  | none => false

/-- Whether a joiner may stand between what comes before it, in reverse, and what comes
behind it. -/
def allowsJoiner (code : Nat) (before behind : LabelCodes) : Bool :=
  before.head?.any isBinding ||
    (code == 0x200C &&
      !(before.head?.any fun last => Text.unplacedRanges.any (·.contains last)) &&
      reaches [.both, .behind] before && reaches [.both, .before] behind)

/-- Whether a code point is one of a script given by its ranges. -/
def isOf (script : List Text.CodeRange) (code : Nat) : Bool := script.any (·.contains code)

/-- Characters that any label may hold. -/
def isPermitted (code : Nat) : Bool :=
  isOf Text.permittedRanges code || Text.permittedAlternating.any fun range =>
    range.contains code && (code - range.first) % 2 == 0

/-- The two signs of Hebrew that follow a letter. -/
def isHebrewSign (code : Nat) : Bool := code == 0x5F3 || code == 0x5F4

/-- The middle dot of Katakana. -/
def katakanaDot : Nat := 0x30FB

/-- Characters that are permitted beside certain others only. -/
def isContextual (code : Nat) : Bool :=
  code == 0xB7 || code == 0x375 || isHebrewSign code || code == katakanaDot ||
    (0x660 ≤ code && code ≤ 0x669) || Text.isPersianDigit code

/-- Whether such a character may stand between what comes before it, in reverse, and what
comes behind it. A dot stands between two letters `l`, a numeral sign before a Greek letter
and a sign of Hebrew behind a Hebrew one; the dot of Katakana needs some letter of Japanese,
and digits of Arabic do not meet digits of Persian. -/
def allowsContextual (code : Nat) (before behind : LabelCodes) : Bool :=
  if code == 0xB7 then before.head? == some 0x6C && behind.head? == some 0x6C
  else if code == 0x375 then behind.head?.any (isOf Text.greekRanges)
  else if isHebrewSign code then before.head?.any (isOf Text.hebrewRanges)
  else if code == katakanaDot then (before ++ behind).any (isOf Text.japaneseRanges)
  else if Text.isPersianDigit code then
    !(before ++ behind).any fun other => 0x660 ≤ other && other ≤ 0x669
  else !(before ++ behind).any Text.isPersianDigit

/-- Judges the characters of a label one after the other, behind those that were judged
before, in reverse. -/
def checkCharacters (label : String) : LabelCodes → LabelCodes → Except LabelProblem Unit
  | _, [] => .ok ()
  | before, code :: behind =>
      let position := before.length + 1
      if isPermitted code then checkCharacters label (code :: before) behind
      else if Text.isJoiner code then
        if allowsJoiner code before behind then checkCharacters label (code :: before) behind
        else .error (.joiner code position label)
      else if isContextual code then
        if allowsContextual code before behind then
          checkCharacters label (code :: before) behind
        else .error (.context code position label)
      else .error (.notPermitted code position label)

/-- Judges the directions of a label that has some from right to left. The first letter
decides the direction of the label: no letter is written the other way, digits of two kinds
do not meet in one from right to left, and it ends with a letter or a digit, marks apart. -/
def checkMixed (label : String) (directions : List Text.Direction) :
    Except LabelProblem Unit := do
  let ending := (directions.reverse.find? (· != .mark)).getD .neutral
  match directions.head? with
  | some .rightToLeft =>
      walk [] 1 directions
      if ending == .neutral then throw .trailingDirection
  | some .leftToRight =>
      match directions.findIdx? fun d => d == .rightToLeft || d == .arabicDigit with
      | some place => throw (.againstLeftToRight (place + 1))
      | none => if ending == .neutral then throw .trailingDirection
  | _ => throw (.leadingDirection label)
where
  /-- Judges a label from right to left from a position on. The kinds of digits before it
  are known. -/
  walk (digits : List Text.Direction) (position : Nat) :
      List Text.Direction → Except LabelProblem Unit
    | [] => .ok ()
    | .leftToRight :: _ => .error (.againstRightToLeft position)
    | d :: rest =>
        if d == .westernDigit || d == .arabicDigit then
          if digits.all (· == d) then walk [d] (position + 1) rest else .error .mixedDigits
        else walk digits (position + 1) rest

/-- Judges the directions in which the characters of a label are written. -/
def checkDirections (label : String) (codes : LabelCodes) : Except LabelProblem Unit :=
  let directions := codes.map Text.directionOf
  match directions.findIdx? (· == .unknown) with
  | some place => .error (.unknownDirection label (place + 1))
  | none =>
      if directions.any fun d => d == .rightToLeft || d == .arabicDigit then
        checkMixed label directions
      else .ok ()

/-- Judges a label. -/
def check (codes : LabelCodes) (label : String) : Except LabelProblem Unit := do
  if codes.isEmpty then throw .empty
  if !Text.isComposed codes then throw .notComposed
  if (codes.drop 2).take 2 == [0x2D, 0x2D] then throw .hyphensInside
  if codes.head? == some 0x2D || codes.getLast? == some 0x2D then throw .hyphenOutside
  if codes.head?.any Text.isMark then throw .leadingMark
  checkCharacters label [] codes
  checkDirections label codes

end LabelCodes

/-- Labels of names of hosts. -/
abbrev HostLabel := List Char

namespace HostLabel

/-- Judges a label as it is written. -/
def check (label : HostLabel) : Except LabelProblem Unit :=
  LabelCodes.check (label.map Text.codeOf) (String.ofList label)

/-- The mark of labels that stand for others beyond ASCII. -/
def encodedMark : List Char := "xn--".toList

/-- The label that a label in ASCII stands for. -/
def decode (label : HostLabel) : Except LabelProblem HostLabel := do
  let label : HostLabel := label.map Char.toLower
  match Text.dropPrefix? encodedMark label with
  | none =>
      label.check
      return label
  | some rest =>
      if rest.isEmpty then throw .nothingEncoded
      if rest.getLast? == some '-' then throw .encodedHyphen
      match Punycode.decode? rest with
      | none => throw .notDecodable
      | some decoded =>
          HostLabel.check decoded
          return decoded

/-- The most characters of a label in ASCII. -/
def lengthLimit : Nat := 63

/-- The label in ASCII that stands for a label, if it has one. -/
def encode? (label : HostLabel) : Option HostLabel :=
  let encoded? : Option HostLabel :=
    if label.all (·.toNat < 128) then (decode label).toOption.map fun _ => label
    else label.check.toOption.map fun _ => encodedMark ++ Punycode.encode label
  encoded?.filter (·.length ≤ lengthLimit)

end HostLabel

end JsonQuery
