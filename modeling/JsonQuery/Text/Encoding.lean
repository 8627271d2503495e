import JsonQuery.Text.Basic

/-!
Texts written as bytes, in units of one, two or four bytes. A decoder answers one entry
for each character and an empty entry for each group of bytes that is no character, so a
text is sound when every entry is a character. Halves of characters are in order in data,
which may hold them alone, and out of order everywhere else.
-/

namespace JsonQuery.Text

/-- What the first byte of a character of several bytes says: its share of the code point,
the bounds of the byte that follows, and the number of bytes that follow. -/
structure LeadByte where
  share : Nat
  low : Nat
  high : Nat
  more : Nat

/-- The meaning of a byte as the first one of several, where halves are in order or not. -/
def leadByte? (halves : Bool) (b : Nat) : Option LeadByte :=
  if 0xC2 ≤ b && b ≤ 0xDF then some ⟨b - 0xC0, 0x80, 0xBF, 1⟩
  else if b == 0xE0 then some ⟨0, 0xA0, 0xBF, 2⟩
  else if b == 0xED then some ⟨0xD, 0x80, if halves then 0xBF else 0x9F, 2⟩
  else if 0xE1 ≤ b && b ≤ 0xEF then some ⟨b - 0xE0, 0x80, 0xBF, 2⟩
  else if b == 0xF0 then some ⟨0, 0x90, 0xBF, 3⟩
  else if b == 0xF4 then some ⟨4, 0x80, 0x8F, 3⟩
  else if 0xF1 ≤ b && b ≤ 0xF3 then some ⟨b - 0xF0, 0x80, 0xBF, 3⟩
  else none

/-- The code point that the following bytes complete, if they do, and the bytes behind the
last one that belongs to it. -/
def followingBytes (share low high : Nat) : Nat → List UInt8 → Option Nat × List UInt8
  | 0, bytes => (some share, bytes)
  | _ + 1, [] => (none, [])
  | more + 1, b :: bytes =>
      if low ≤ b.toNat && b.toNat ≤ high then
        followingBytes (64 * share + b.toNat % 64) 0x80 0xBF more bytes
      else (none, b :: bytes)

theorem length_followingBytes_le (share low high more : Nat) (bytes : List UInt8) :
    (followingBytes share low high more bytes).2.length ≤ bytes.length := by
  fun_induction followingBytes share low high more bytes with
  | case1 => exact Nat.le_refl _
  | case2 => exact Nat.le_refl _
  | case3 share low high more b bytes h ih =>
      exact Nat.le_trans ih (Nat.le_succ _)
  | case4 => exact Nat.le_refl _

/-- The characters of bytes in UTF-8, where halves are in order or not. -/
def decodeUtf8 (halves : Bool) : List UInt8 → List (Option Char)
  | [] => []
  | b :: bytes =>
      if b.toNat < 0x80 then some (Char.ofNat b.toNat) :: decodeUtf8 halves bytes
      else match leadByte? halves b.toNat with
        | none => none :: decodeUtf8 halves bytes
        | some lead =>
            let result := followingBytes lead.share lead.low lead.high lead.more bytes
            result.1.map charOf :: decodeUtf8 halves result.2
termination_by bytes => bytes.length
decreasing_by
  · exact Nat.lt_succ_self _
  · exact Nat.lt_succ_self _
  · exact Nat.lt_succ_of_le (length_followingBytes_le ..)

/-- The order of the bytes in a unit of several bytes. -/
inductive ByteOrder where
  | bigEndian
  | littleEndian
  deriving DecidableEq, Repr

/-- The number that bytes form in an order. -/
def ByteOrder.number (order : ByteOrder) (bytes : List UInt8) : Nat :=
  match order with
  | .bigEndian => bytes.foldl (fun n b => 256 * n + b.toNat) 0
  | .littleEndian => bytes.foldr (fun b n => 256 * n + b.toNat) 0

/-- The character that stands for a code point, if it is one. -/
def charOfCode? (code : Nat) : Option Char :=
  if code ≤ 0x10FFFF then some (charOf code) else none

/-- The units of two bytes; a byte that is left over makes no unit. -/
def units16 (order : ByteOrder) : List UInt8 → List (Option Nat)
  | [] => []
  | [_] => [none]
  | a :: b :: bytes => some (order.number [a, b]) :: units16 order bytes

/-- The characters of units of UTF-16, of which two halves make one. -/
def ofUnits16 : List (Option Nat) → List (Option Char)
  | [] => []
  | none :: units => none :: ofUnits16 units
  | some high :: some low :: units =>
      if 0xD800 ≤ high && high ≤ 0xDBFF && 0xDC00 ≤ low && low ≤ 0xDFFF then
        charOfCode? (0x10000 + 1024 * (high - 0xD800) + (low - 0xDC00)) :: ofUnits16 units
      else charOfCode? high :: ofUnits16 (some low :: units)
  | some unit :: units => charOfCode? unit :: ofUnits16 units

/-- The characters of bytes in UTF-16. -/
def decodeUtf16 (order : ByteOrder) (bytes : List UInt8) : List (Option Char) :=
  ofUnits16 (units16 order bytes)

/-- The characters of bytes in UTF-32. -/
def decodeUtf32 (order : ByteOrder) : List UInt8 → List (Option Char)
  | [] => []
  | a :: b :: c :: d :: bytes =>
      charOfCode? (order.number [a, b, c, d]) :: decodeUtf32 order bytes
  | _ :: _ => [none]

end JsonQuery.Text
