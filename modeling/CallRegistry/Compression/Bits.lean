/-!
# Bit streams

A compressed byte string is read bit by bit, from the least bit of its first byte
on.  A reader gives its result and the bits that are left.  It stops where the
stream goes wrong, or where the stream is cut off; the two are told apart, because
what was read before a cut is kept.
-/

namespace CallRegistry.Compression

inductive Fault where
  -- the wrapping
  | header
  | method
  | headerFlags
  | headerCheck
  | window
  | dictionary
  | check
  | length
  -- the blocks
  | blockKind
  | storedLength
  | manySymbols
  | lengthCode
  | repetition
  | noEnd
  | literalCode
  | distanceCode
  | literal
  | distance
  | tooFar
  deriving DecidableEq, Repr

def Fault.message : Fault → String
  | .header => "incorrect header check"
  | .method => "unknown compression method"
  | .headerFlags => "unknown header flags set"
  | .headerCheck => "header crc mismatch"
  | .window => "invalid window size"
  | .dictionary => "a dictionary is needed"
  | .check => "incorrect data check"
  | .length => "incorrect length check"
  | .blockKind => "invalid block type"
  | .storedLength => "invalid stored block lengths"
  | .manySymbols => "too many length or distance symbols"
  | .lengthCode => "invalid code lengths set"
  | .repetition => "invalid bit length repeat"
  | .noEnd => "invalid code -- missing end-of-block"
  | .literalCode => "invalid literal/lengths set"
  | .distanceCode => "invalid distances set"
  | .literal => "invalid literal/length code"
  | .distance => "invalid distance code"
  | .tooFar => "invalid distance too far back"

/-- Why reading stops. -/
inductive Stop where
  /-- The stream is cut off. -/
  | cut
  | fault (fault : Fault)
  deriving DecidableEq, Repr

/-- Bits in the order of the stream. -/
abbrev Bits := List Bool

abbrev BitReader := StateT Bits (Except Stop)

def bitsOfByte (b : UInt8) : Bits :=
  (List.range 8).map b.toNat.testBit

def bitsOf (bytes : List UInt8) : Bits :=
  bytes.flatMap bitsOfByte

/-- The number that bits write, the least one first. -/
def valueOf (bits : Bits) : Nat :=
  bits.foldr (fun b n => 2 * n + b.toNat) 0

namespace BitReader

/-- Reads a number of so many bits. -/
def number (width : Nat) : BitReader Nat := fun bits =>
  let taken := bits.take width
  if taken.length < width then .error .cut
  else .ok (valueOf taken, bits.drop width)

def refuse {α : Type} (fault : Fault) : BitReader α := fun _ =>
  .error (.fault fault)

/-- Passes over the rest of a byte.  The stream ends with a whole byte. -/
def align : BitReader Unit := fun bits =>
  .ok ((), bits.drop (bits.length % 8))

end BitReader

end CallRegistry.Compression
