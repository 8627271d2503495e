/-!
Bytes as bits, in the order in which compressed data uses them: the lowest bit of a byte comes
first, and so does the lowest bit of a number.
-/

namespace JsonQuery.Compression

/-- What can be wrong with compressed data. -/
inductive Problem where
  | header
  | method
  | windowSize
  | headerFlags
  | headerChecksum
  | dictionary
  | blockKind
  | storedLengths
  | symbolCounts
  | codeLengthsCode
  | lengthRepeat
  | noBlockEnd
  | literalsCode
  | distancesCode
  | literal
  | distance
  | farDistance
  | dataChecksum
  | dataLength
  deriving DecidableEq, Repr

/-- The wording of a problem with compressed data. -/
def Problem.message : Problem → String
  | .header => "incorrect header check"
  | .method => "unknown compression method"
  | .windowSize => "invalid window size"
  | .headerFlags => "unknown header flags set"
  | .headerChecksum => "header crc mismatch"
  | .dictionary => "need dictionary"
  | .blockKind => "invalid block type"
  | .storedLengths => "invalid stored block lengths"
  | .symbolCounts => "too many length or distance symbols"
  | .codeLengthsCode => "invalid code lengths set"
  | .lengthRepeat => "invalid bit length repeat"
  | .noBlockEnd => "invalid code -- missing end-of-block"
  | .literalsCode => "invalid literal/lengths set"
  | .distancesCode => "invalid distances set"
  | .literal => "invalid literal/length code"
  | .distance => "invalid distance code"
  | .farDistance => "invalid distance too far back"
  | .dataChecksum => "incorrect data check"
  | .dataLength => "incorrect length check"

/-- Why reading ends before its time: there are no more bits, or they make no sense. -/
inductive Halt where
  | short
  | broken (problem : Problem)
  deriving DecidableEq, Repr

/-- A reading from the front of some bits. -/
abbrev BitReader := StateT (List Bool) (Except Halt)

/-- The bits of a byte. -/
def bitsOfByte (b : UInt8) : List Bool := (List.range 8).map b.toNat.testBit

/-- The bits of some bytes. -/
def bitsOf (bytes : List UInt8) : List Bool := bytes.flatMap bitsOfByte

/-- The number at the front of some bits, of as many bits as given, and the bits behind it. -/
def takeNumber? : Nat → List Bool → Option (Nat × List Bool)
  | 0, bits => some (0, bits)
  | _ + 1, [] => none
  | count + 1, bit :: bits =>
      (takeNumber? count bits).map fun (n, rest) => (bit.toNat + 2 * n, rest)

namespace BitReader

/-- Reads a number of some bits. -/
def number (count : Nat) : BitReader Nat := fun bits =>
  match takeNumber? count bits with
  | some result => .ok result
  | none => .error .short

/-- Reads a byte. -/
def byte : BitReader UInt8 := UInt8.ofNat <$> number 8

/-- Reads some bytes. -/
def bytes (count : Nat) : BitReader (List UInt8) := (List.replicate count ()).mapM fun _ => byte

/-- Passes over the bits up to the next byte. -/
def align : BitReader Unit := modify fun bits => bits.drop (bits.length % 8)

/-- Ends the reading with a problem unless a condition holds. -/
def require (condition : Bool) (problem : Problem) : BitReader Unit :=
  if condition then pure () else throw (.broken problem)

end BitReader

end JsonQuery.Compression
