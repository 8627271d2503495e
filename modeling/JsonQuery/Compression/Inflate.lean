import JsonQuery.Compression.PrefixCode

/-!
Data compressed by the method of RFC 1951: blocks of plain bytes, and blocks of literal bytes
and of copies of what was written before, both in prefix codes. Data that ends early stands for
what its beginning stands for.
-/

namespace JsonQuery.Compression

/-- Where the unpacking of data stands: the bits left, and the bytes so far in reverse. -/
structure Inflating where
  bits : List Bool
  output : List UInt8

/-- Why the unpacking ends before its time. What was unpacked is kept where data is missing. -/
inductive Stop where
  | short (output : List UInt8)
  | broken (problem : Problem)

namespace Inflating

/-- Reads from the bits that are left. -/
def take {α : Type} (s : Inflating) (reader : BitReader α) : Except Stop (α × Inflating) :=
  match reader s.bits with
  | .ok (value, bits) => .ok (value, { s with bits })
  | .error .short => .error (.short s.output)
  | .error (.broken problem) => .error (.broken problem)

end Inflating

/-- The least length of a copy for each symbol from 257 on, and how many bits add to it. -/
def copyLengths : List (Nat × Nat) := [
  (3, 0), (4, 0), (5, 0), (6, 0), (7, 0), (8, 0), (9, 0), (10, 0), (11, 1), (13, 1), (15, 1),
  (17, 1), (19, 2), (23, 2), (27, 2), (31, 2), (35, 3), (43, 3), (51, 3), (59, 3), (67, 4),
  (83, 4), (99, 4), (115, 4), (131, 5), (163, 5), (195, 5), (227, 5), (258, 0)]

/-- The least distance of a copy for each symbol, and how many bits add to it. -/
def copyDistances : List (Nat × Nat) := [
  (1, 0), (2, 0), (3, 0), (4, 0), (5, 1), (7, 1), (9, 2), (13, 2), (17, 3), (25, 3), (33, 4),
  (49, 4), (65, 5), (97, 5), (129, 6), (193, 6), (257, 7), (385, 7), (513, 8), (769, 8),
  (1025, 9), (1537, 9), (2049, 10), (3073, 10), (4097, 11), (6145, 11), (8193, 12),
  (12289, 12), (16385, 13), (24577, 13)]

/-- The codes of a block: one for literal bytes and lengths of copies, one for distances. -/
structure BlockCodes where
  literals : PrefixCode
  distances : PrefixCode

/-- An item of a block. -/
inductive BlockItem where
  | literal (value : UInt8)
  | copy (length distance : Nat)
  | finish

/-- Reads an item of a block. -/
def BlockCodes.item (codes : BlockCodes) : BitReader BlockItem := do
  let symbol ← codes.literals.read .literal
  if symbol < 256 then return .literal (UInt8.ofNat symbol)
  else if symbol == 256 then return .finish
  else match copyLengths[symbol - 257]? with
    | none => throw (.broken .literal)
    | some (length, lengthBits) =>
        let length := length + (← BitReader.number lengthBits)
        match copyDistances[← codes.distances.read .distance]? with
        | none => throw (.broken .distance)
        | some (distance, distanceBits) =>
            return .copy length (distance + (← BitReader.number distanceBits))

/-- Bytes in reverse with a copy of earlier ones in front. A copy that is longer than its
distance repeats itself. -/
def copyBack (length distance : Nat) (output : List UInt8) : List UInt8 :=
  let window := (output.take distance).reverse.toArray
  (List.range length).foldl (fun output i => window.getD (i % window.size) 0 :: output) output

/-- Unpacks the items of a block. -/
def BlockCodes.unpack (codes : BlockCodes) : Nat → Inflating → Except Stop Inflating
  | 0, s => .error (.short s.output)
  | fuel + 1, s => do
      let (item, s) ← s.take codes.item
      match item with
      | .finish => return s
      | .literal value => codes.unpack fuel { s with output := value :: s.output }
      | .copy length distance =>
          if s.output[distance - 1]?.isNone then throw (.broken .farDistance)
          else codes.unpack fuel { s with output := copyBack length distance s.output }

/-- The codes of blocks that do not tell their own. -/
def fixedCodes : BlockCodes where
  literals := PrefixCode.ofLengths (List.replicate 144 8 ++ List.replicate 112 9 ++
    List.replicate 24 7 ++ List.replicate 8 8)
  distances := PrefixCode.ofLengths (List.replicate 32 5)

/-- The order in which the lengths of the codes for lengths are told. -/
def lengthOrder : List Nat := [16, 17, 18, 0, 8, 7, 9, 6, 10, 5, 11, 4, 12, 3, 13, 2, 14, 1, 15]

/-- Reads the code in which the lengths of other codes are told. -/
def readLengthsCode (count : Nat) : BitReader PrefixCode := do
  let told ← (lengthOrder.take count).mapM fun symbol => return (symbol, ← BitReader.number 3)
  let code := PrefixCode.ofLengths ((List.range 19).map fun symbol =>
    (told.lookup symbol).getD 0)
  BitReader.require (code.isUsable false) .codeLengthsCode
  return code

/-- Reads as many lengths of codes as given. The lengths so far are in reverse. Three symbols
repeat a length: the last one, or none for short and for long runs. -/
def readLengths (code : PrefixCode) (count : Nat) : Nat → List Nat → BitReader (List Nat)
  | 0, done => return done.reverse
  | fuel + 1, done => do
      if count ≤ done.length then return done.reverse
      let symbol ← code.readOrZero
      if symbol < 16 then readLengths code count fuel (symbol :: done)
      else
        let extra ← BitReader.number (if symbol == 16 then 2 else if symbol == 17 then 3 else 7)
        BitReader.require (symbol != 16 || !done.isEmpty) .lengthRepeat
        let value := if symbol == 16 then done.headD 0 else 0
        let times := extra + (if symbol == 18 then 11 else 3)
        BitReader.require (done.length + times ≤ count) .lengthRepeat
        readLengths code count fuel (List.replicate times value ++ done)

/-- Reads the codes of a block that tells its own. -/
def readCodes : BitReader BlockCodes := do
  let literals := 257 + (← BitReader.number 5)
  let distances := 1 + (← BitReader.number 5)
  let lengths := 4 + (← BitReader.number 4)
  BitReader.require (literals ≤ 286 && distances ≤ 30) .symbolCounts
  let code ← readLengthsCode lengths
  let count := literals + distances
  let all ← readLengths code count count []
  BitReader.require (all.getD 256 0 != 0) .noBlockEnd
  let codes : BlockCodes :=
    ⟨PrefixCode.ofLengths (all.take literals), PrefixCode.ofLengths (all.drop literals)⟩
  BitReader.require (codes.literals.isUsable true) .literalsCode
  BitReader.require (codes.distances.isUsable true) .distancesCode
  return codes

/-- Reads the length of a block of plain bytes, which is told twice. -/
def readStoredLength : BitReader Nat := do
  BitReader.align
  let length ← BitReader.number 16
  let complement ← BitReader.number 16
  BitReader.require (length + complement == 0xFFFF) .storedLengths
  return length

/-- Takes over plain bytes. -/
def takeStored : Nat → Inflating → Except Stop Inflating
  | 0, s => .ok s
  | count + 1, s => do
      let (value, s) ← s.take BitReader.byte
      takeStored count { s with output := value :: s.output }

/-- Unpacks blocks up to the last one. -/
def inflateBlocks : Nat → Inflating → Except Stop Inflating
  | 0, s => .error (.short s.output)
  | fuel + 1, s => do
      let ((last, kind), s) ← s.take do
        return (← BitReader.number 1, ← BitReader.number 2)
      let s ← match kind with
        | 0 => do
            let (length, s) ← s.take readStoredLength
            takeStored length s
        | 1 => fixedCodes.unpack s.bits.length s
        | 2 => do
            let (codes, s) ← s.take readCodes
            codes.unpack s.bits.length s
        | _ => throw (.broken .blockKind)
      if last == 1 then return s else inflateBlocks fuel s

/-- Unpacks compressed data. -/
def inflate (s : Inflating) : Except Stop Inflating := inflateBlocks s.bits.length s

end JsonQuery.Compression
