/-!
Checksums of bytes: the remainder of RFC 1952, of a division of polynomials, and the pair of
sums of RFC 1950.
-/

namespace JsonQuery.Compression

/-- The remainder after one more bit. -/
def remainderStep (r : UInt32) : UInt32 :=
  if r &&& 1 == 1 then (r >>> 1) ^^^ 0xEDB88320 else r >>> 1

/-- The remainder after one more byte. -/
def remainderByte (r : UInt32) (b : UInt8) : UInt32 :=
  Nat.repeat remainderStep 8 (r ^^^ b.toUInt32)

/-- The remainder of some bytes. -/
def remainder (bytes : List UInt8) : UInt32 := bytes.foldl remainderByte 0xFFFFFFFF ^^^ 0xFFFFFFFF

/-- The modulus of both sums. -/
def sumModulus : Nat := 65521

/-- The sum of some bytes, and behind it the sum of all those sums. -/
def doubleSum (bytes : List UInt8) : Nat :=
  let (low, high) := bytes.foldl (fun (low, high) b =>
    let low := (low + b.toNat) % sumModulus
    (low, (high + low) % sumModulus)) (1, 0)
  65536 * high + low

end JsonQuery.Compression
