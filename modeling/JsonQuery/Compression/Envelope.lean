import JsonQuery.Compression.Checksum
import JsonQuery.Compression.Inflate

/-!
The envelopes in which compressed data is sent, and the codings of a body that are undone. An
envelope has a header in front of the data and a checksum behind it. What follows is passed
over, and where an envelope ends early, what is there counts.
-/

namespace JsonQuery.Compression

/-- Reads the header in the form of RFC 1950. It may name data that both sides have to know,
and no such data is known here. -/
def readShortHeader : BitReader Unit := do
  let method ← BitReader.byte
  let flags ← BitReader.byte
  BitReader.require ((256 * method.toNat + flags.toNat) % 31 == 0) .header
  BitReader.require (method &&& 0x0F == 8) .method
  BitReader.require (method >>> 4 ≤ 7) .windowSize
  if flags &&& 0x20 != 0 then
    let _ ← BitReader.bytes 4
    BitReader.require false .dictionary

/-- Reads bytes up to a zero, and the zero too. -/
def readTerminated : Nat → BitReader (List UInt8)
  | 0 => return []
  | fuel + 1 => do
      let b ← BitReader.byte
      if b == 0 then return [b] else return b :: (← readTerminated fuel)

/-- Reads a part of a header if there is one. -/
def readPart (present : Bool) (part : BitReader (List UInt8)) : BitReader (List UInt8) :=
  if present then part else return []

/-- Reads the header in the form of RFC 1952. It may hold extra data, a name and a comment, and
its own checksum. -/
def readLongHeader : BitReader Unit := do
  let mark ← BitReader.bytes 2
  BitReader.require (mark == [0x1F, 0x8B]) .header
  let method ← BitReader.byte
  let flags ← BitReader.byte
  BitReader.require (method == 8) .method
  BitReader.require (flags &&& 0xE0 == 0) .headerFlags
  let has (bit : Nat) : Bool := flags.toNat.testBit bit
  let times ← BitReader.bytes 6
  let extra ← readPart (has 2) do
    let size ← BitReader.bytes 2
    let content ← BitReader.bytes (size.foldr (fun b n => 256 * n + b.toNat) 0)
    return size ++ content
  let bound := (← get).length
  let name ← readPart (has 3) (readTerminated bound)
  let comment ← readPart (has 4) (readTerminated bound)
  if has 1 then
    let checksum ← BitReader.number 16
    let header := mark ++ [method, flags] ++ times ++ extra ++ name ++ comment
    BitReader.require (checksum == (remainder header).toNat % 65536) .headerChecksum

/-- Reads the checksum behind data in the form of RFC 1950. -/
def readShortTrailer (content : List UInt8) : BitReader Unit := do
  BitReader.align
  let checksum ← BitReader.bytes 4
  BitReader.require (checksum.foldl (fun n b => 256 * n + b.toNat) 0 == doubleSum content)
    .dataChecksum

/-- Reads the checksum and the length behind data in the form of RFC 1952. -/
def readLongTrailer (content : List UInt8) : BitReader Unit := do
  BitReader.align
  let checksum ← BitReader.number 32
  BitReader.require (checksum == (remainder content).toNat) .dataChecksum
  let length ← BitReader.number 32
  BitReader.require (length == content.length % 4294967296) .dataLength

/-- Unpacks data between a header and a trailer. -/
def unpack (header : BitReader Unit) (trailer : List UInt8 → BitReader Unit)
    (bytes : List UInt8) : Except Problem (List UInt8) :=
  let unpacked := do
    let (_, s) ← Inflating.take ⟨bitsOf bytes, []⟩ header
    let s ← inflate s
    let (_, s) ← s.take (trailer s.output.reverse)
    return s.output
  match unpacked with
  | .ok output | .error (.short output) => .ok output.reverse
  | .error (.broken problem) => .error problem

/-- A coding of a body that can be undone. -/
inductive Coding where
  | identity
  | gzip
  | deflate
  deriving DecidableEq, Repr

namespace Coding

/-- The coding of a name. -/
def ofName? : String → Option Coding
  | "identity" => some .identity
  | "gzip" => some .gzip
  | "deflate" => some .deflate
  | _ => none

/-- The bytes before a coding was applied. Data whose envelope is not in order is tried again
as data without one where the coding is known under two forms. -/
def undo (coding : Coding) (bytes : List UInt8) : Except Problem (List UInt8) :=
  match coding with
  | .identity => .ok bytes
  | .gzip => unpack readLongHeader readLongTrailer bytes
  | .deflate =>
      match unpack readShortHeader readShortTrailer bytes with
      | .ok content => .ok content
      | .error _ => unpack (return ()) (fun _ => return ()) bytes

end Coding

end JsonQuery.Compression
