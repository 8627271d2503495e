/-!
Halves of characters. UTF-16 writes a character beyond the first 65536 as two halves, and data
may hold one half without the other. Such a half is no character, but texts keep it in its
place: the private character whose code point is larger by a fixed number stands for it. The
code point that a character stands for is what is compared and shown in escapes, and texts
with halves cannot be written out as bytes.
-/

namespace JsonQuery.Text

/-- The code points of halves. -/
def isHalfCode (code : Nat) : Bool := 0xD800 ≤ code && code ≤ 0xDFFF

/-- How far the characters that stand for halves lie behind them. -/
def halfOffset : Nat := 0x100000

/-- The character that stands for a code point. -/
def charOf (code : Nat) : Char :=
  Char.ofNat (if isHalfCode code then halfOffset + code else code)

/-- Whether a character stands for a half. -/
def isHalf (c : Char) : Bool := halfOffset ≤ c.toNat && isHalfCode (c.toNat - halfOffset)

/-- The code point that a character stands for. -/
def codeOf (c : Char) : Nat := if isHalf c then c.toNat - halfOffset else c.toNat

end JsonQuery.Text
