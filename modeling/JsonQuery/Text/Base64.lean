import JsonQuery.Text.Basic

/-!
Bytes written in digits of six bits, four digits to three bytes. The last group may be short
and is completed by padding; characters that are neither digits nor padding mean nothing.
-/

namespace JsonQuery.Text

/-- The value of a digit of six bits. -/
def base64Value? (c : Char) : Option Nat :=
  let code := c.toNat
  if 65 ≤ code && code ≤ 90 then some (code - 65)
  else if 97 ≤ code && code ≤ 122 then some (code - 71)
  else if 48 ≤ code && code ≤ 57 then some (code + 4)
  else if c == '+' then some 62
  else if c == '/' then some 63
  else none

/-- The values of the digits up to the padding that completes a group, none if the last group
is not complete. The numbers given are those of the digits before and of the padding
characters since the last of them. -/
def base64Values? (count pads : Nat) : List Char → Option (List Nat)
  | [] => if count % 4 == 0 then some [] else none
  | c :: rest =>
      if c == '=' then
        if count % 4 < 2 then base64Values? count pads rest
        else if 4 ≤ count % 4 + (pads + 1) then some []
        else base64Values? count (pads + 1) rest
      else match base64Value? c with
        | none => base64Values? count pads rest
        | some value => (base64Values? (count + 1) 0 rest).map (value :: ·)

/-- The bytes that values of six bits form. -/
def joinSixes : List Nat → List UInt8
  | a :: b :: c :: d :: rest =>
      UInt8.ofNat (4 * a + b / 16) :: UInt8.ofNat (16 * (b % 16) + c / 4) ::
        UInt8.ofNat (64 * (c % 4) + d) :: joinSixes rest
  | [a, b, c] => [UInt8.ofNat (4 * a + b / 16), UInt8.ofNat (16 * (b % 16) + c / 4)]
  | [a, b] => [UInt8.ofNat (4 * a + b / 16)]
  | _ => []

/-- The bytes that a text denotes, none if its last group of digits is not complete. -/
def decodeBase64? (cs : List Char) : Option (List UInt8) :=
  (base64Values? 0 0 cs).map joinSixes

end JsonQuery.Text
