/-!
# Checksums

A checksum of 32 bits tells whether a byte string arrived as it was sent.  One is
the remainder of a division of polynomials, the other one is made of two sums.
-/

namespace CallRegistry.Compression

/-- The divisor of the cyclic checksum, without its leading term and with the bits
in reverse. -/
def cyclicDivisor : UInt32 := 0xedb88320

/-- Takes a bit down from a remainder. -/
def cyclicShift (c : UInt32) : UInt32 :=
  if c &&& 1 = 1 then (c >>> 1) ^^^ cyclicDivisor else c >>> 1

def cyclicStep (c : UInt32) (b : UInt8) : UInt32 :=
  (List.range 8).foldl (fun c _ => cyclicShift c) (c ^^^ b.toUInt32)

def cyclicChecksum (bytes : List UInt8) : Nat :=
  (bytes.foldl cyclicStep 0xffffffff ^^^ 0xffffffff).toNat

def sumModulus : Nat := 65521

/-- The sums after one more byte: that of the bytes, and that of all the sums
before. -/
def sumStep (sums : Nat × Nat) (b : UInt8) : Nat × Nat :=
  let low := (sums.1 + b.toNat) % sumModulus
  (low, (sums.2 + low) % sumModulus)

/-- The checksum that is made of two sums. -/
def sumChecksum (bytes : List UInt8) : Nat :=
  let (low, high) := bytes.foldl sumStep (1, 0)
  0x10000 * high + low

end CallRegistry.Compression
