import JsonQuery.Text.HostTable
import JsonQuery.Text.MarkTable

/-!
The direction in which a character is written, for the characters that names of hosts may
hold. Digits have a direction of their own kind, marks take that of their letter, and signs
have none.
-/

namespace JsonQuery.Text

/-- How a character is written. -/
inductive Direction where
  | leftToRight
  | rightToLeft
  | westernDigit
  | arabicDigit
  | mark
  | neutral
  | unknown
  deriving DecidableEq, Repr

/-- Whether a code point is a mark that takes no room of its own. -/
def isNonspacing (code : Nat) : Bool := nonspacingRanges.any (·.contains code)

/-- Whether a code point is a mark of any kind. -/
def isMark (code : Nat) : Bool :=
  isNonspacing code || spacingMarkRanges.any (·.contains code)

/-- The digits of Arabic, and those of its relatives that are written like them. -/
def isArabicDigit (code : Nat) : Bool :=
  (0x660 ≤ code && code ≤ 0x669) || (0x10D30 ≤ code && code ≤ 0x10D39)

/-- The digits of Persian and Urdu. -/
def isPersianDigit (code : Nat) : Bool := 0x6F0 ≤ code && code ≤ 0x6F9

/-- The two characters without width that join their neighbours or keep them apart. -/
def isJoiner (code : Nat) : Bool := code == 0x200C || code == 0x200D

/-- The direction of a permitted character. -/
def directionOf (code : Nat) : Direction :=
  let isIn (table : List CodeRange) : Bool := table.any (·.contains code)
  if isIn unplacedRanges then .unknown
  else if isNonspacing code && !isIn spokenMarkRanges then .mark
  else if isArabicDigit code then .arabicDigit
  else if (0x30 ≤ code && code ≤ 0x39) || isPersianDigit code then .westernDigit
  else if code == 0x2D || isJoiner code || isIn undirectedRanges then .neutral
  else if isIn rightToLeftRanges || isIn arabicRanges then .rightToLeft
  else .leftToRight

/-- How a character joins the letters beside it. -/
inductive Joining where
  | both
  | behind
  | before
  | transparent
  | none
  deriving DecidableEq, Repr

/-- How a code point joins the letters beside it. -/
def joiningOf (code : Nat) : Joining :=
  let isIn (table : List CodeRange) : Bool := table.any (·.contains code)
  if isIn joiningBothRanges then .both
  else if isIn joiningBehindRanges then .behind
  else if isIn joiningBeforeRanges then .before
  else if isIn transparentRanges || (isNonspacing code && !isIn opaqueMarkRanges) then
    .transparent
  else .none

end JsonQuery.Text
