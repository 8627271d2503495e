import JsonQuery.Compression.Bits

/-!
Prefix codes that are given by the lengths of their codes. Codes of one length are numbers
that follow each other in the order of the symbols, and they come before all longer codes. So
a code is nothing but its symbols, by length and in order, and the bits of a symbol are read
by counting how many codes of the current length lie before them.
-/

namespace JsonQuery.Compression

/-- A prefix code: the symbols that have codes of one bit, of two bits and so on. -/
abbrev PrefixCode := List (List Nat)

namespace PrefixCode

/-- The code in which every symbol has a code of the given length, and none if that is zero.
There is always a first length. -/
def ofLengths (lengths : List Nat) : PrefixCode :=
  (List.range (lengths.foldl max 1)).map fun i =>
    (lengths.zipIdx.filter (·.1 == i + 1)).map (·.2)

/-- Whether no symbol has a code. -/
def isBlank (code : PrefixCode) : Bool := code.all List.isEmpty

/-- How many codes of the greatest length are left over, unless there are more symbols than
codes for them. -/
def spare? (code : PrefixCode) : Option Nat :=
  code.foldlM (fun free group =>
    if group.length ≤ 2 * free then some (2 * free - group.length) else none) 1

/-- Whether a code can be used: every sequence of bits begins with a code. A code without
symbols is taken too, and where `lone` says so, one with a single code of one bit. -/
def isUsable (lone : Bool) (code : PrefixCode) : Bool :=
  code.isBlank || match code.spare? with
    | none => false
    | some free => free == 0 || (lone && code.length == 1)

/-- What a reading with a code finds: a symbol or bits that are no code, each with the bits
behind it, or too few bits. -/
inductive Found where
  | symbol (value : Nat) (rest : List Bool)
  | unassigned (rest : List Bool)
  | short

/-- Reads a symbol. `before` counts the codes that are shorter than the bits read so far and
would have come before them. -/
def find : PrefixCode → Nat → List Bool → Found
  | [], _, bits => .unassigned bits
  | _ :: _, _, [] => .short
  | group :: groups, before, bit :: bits =>
      let place := 2 * before + bit.toNat
      match group[place]? with
      | some value => .symbol value bits
      | none => find groups (place - group.length) bits

/-- Reads a symbol. Bits that are no code are a problem. -/
def read (code : PrefixCode) (problem : Problem) : BitReader Nat := fun bits =>
  match code.find 0 bits with
  | .symbol value rest => .ok (value, rest)
  | .unassigned _ => .error (.broken problem)
  | .short => .error .short

/-- Reads a symbol. Bits that are no code stand for zero. -/
def readOrZero (code : PrefixCode) : BitReader Nat := fun bits =>
  match code.find 0 bits with
  | .symbol value rest => .ok (value, rest)
  | .unassigned rest => .ok (0, rest)
  | .short => .error .short

end PrefixCode

end JsonQuery.Compression
