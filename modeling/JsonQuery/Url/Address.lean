import JsonQuery.Number.Reading

/-!
Host addresses as they are written in URLs: four numbers with points between them, and
groups of hexadecimal digits with colons between them, of which one run of zero groups
may be left out.
-/

namespace JsonQuery.Address

/-- A number of a four-part address: up to 255 and without needless zeros. -/
def isOctet (cs : List Char) : Bool :=
  !cs.isEmpty && cs.all Text.isAsciiDigit && cs.length ≤ 3 &&
    (cs == ['0'] || cs.head? != some '0') && natOfDigits cs ≤ 255

/-- Addresses of four numbers. -/
def isFourPart (cs : List Char) : Bool :=
  let parts := Text.splitOn '.' cs
  parts.length == 4 && parts.all isOctet

/-- One to four hexadecimal digits. -/
def isGroup (cs : List Char) : Bool :=
  !cs.isEmpty && cs.length ≤ 4 && cs.all fun c => (Text.hexDigitValue? c).isSome

/-- The groups of an address. A four-part address at the end counts as two groups. -/
def groups (final : Bool) (cs : List Char) : List (List Char) :=
  if cs.isEmpty then []
  else
    let parts := Text.splitOn ':' cs
    match parts.getLast? with
    | some last =>
        if final && isFourPart last then parts.dropLast ++ [['0'], ['0']] else parts
    | none => parts

/-- What stands before and behind the first two colons in a row. -/
def cutAtGap? : List Char → Option (List Char × List Char)
  | [] => none
  | c :: rest =>
      match c, rest with
      | ':', ':' :: behind => some ([], behind)
      | _, _ => (cutAtGap? rest).map fun (before, behind) => (c :: before, behind)

/-- Addresses of eight groups, or of fewer groups around a gap, without the name of a zone. -/
def isGrouped (cs : List Char) : Bool :=
  match cutAtGap? cs with
  | none => (groups true cs).length == 8 && (groups true cs).all isGroup
  | some (before, behind) =>
      let all := groups false before ++ groups true behind
      all.length ≤ 7 && all.all isGroup

/-- Addresses of groups. The name of a zone may follow behind a percent sign. -/
def isBracketable (cs : List Char) : Bool :=
  match Text.cutAt '%' cs with
  | (address, none) => isGrouped address
  | (address, some zone) => isGrouped address && !zone.isEmpty && !zone.contains '%'

/-- Whether a host has the outward form of a four-part address: four runs of digits with
points between them. -/
def looksFourPart (cs : List Char) : Bool :=
  let parts := Text.splitOn '.' cs
  parts.length == 4 && parts.all fun part => !part.isEmpty && part.all Text.isAsciiDigit

end JsonQuery.Address
