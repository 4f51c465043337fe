import CallRegistry.Compression.Checksum
import CallRegistry.Compression.Inflate

/-!
# Wrappings of deflated byte strings

A deflated byte string comes bare, or with a header before it and a checksum
behind it, in a short form or in that of a compressed file.  A byte string that is
cut off gives what came out before the cut; nothing behind the wrapping counts.
-/

namespace CallRegistry.Compression

abbrev ByteReader := StateT (List UInt8) (Except Stop)

namespace ByteReader

def bytes (count : Nat) : ByteReader (List UInt8) := fun given =>
  let taken := given.take count
  if taken.length < count then .error .cut else .ok (taken, given.drop count)

def valueOf (bytes : List UInt8) : Nat :=
  bytes.foldr (fun b n => 0x100 * n + b.toNat) 0

def skipText : ByteReader Unit := fun given =>
  match given.dropWhile (· ≠ 0) with
  | [] => .error .cut
  | _ :: rest => .ok ((), rest)

def demand (holds : Bool) (fault : Fault) : ByteReader Unit := fun given =>
  if holds then .ok ((), given) else .error (.fault fault)

end ByteReader

open ByteReader (skipText demand)

/-- The method of compression: deflation. -/
def deflation : Nat := 8

def shortHeader : ByteReader Unit := do
  let head ← ByteReader.bytes 2
  let first := (head.headD 0).toNat
  let flags := (head.getLastD 0).toNat
  demand ((0x100 * first + flags) % 31 = 0) .header
  demand (first % 16 = deflation) .method
  demand (first / 16 ≤ 7) .window
  if flags.testBit 5 then
    let _ ← ByteReader.bytes 4
    demand false .dictionary

/-- Reads the header of a compressed file.  Its flags say which parts it has: more
fields, a name, a comment, and a checksum of what went before. -/
def fileHeader : ByteReader Unit := do
  let given ← get
  let mark ← ByteReader.bytes 2
  demand (mark = [0x1f, 0x8b]) .header
  let kind ← ByteReader.bytes 2
  let flags := (kind.getLastD 0).toNat
  demand ((kind.headD 0).toNat = deflation) .method
  demand (flags < 0x20) .headerFlags
  let _ ← ByteReader.bytes 6
  if flags.testBit 2 then
    let length ← ByteReader.bytes 2
    let _ ← ByteReader.bytes (ByteReader.valueOf length)
  if flags.testBit 3 then skipText
  if flags.testBit 4 then skipText
  if flags.testBit 1 then
    let before := given.take (given.length - (← get).length)
    let check ← ByteReader.bytes 2
    demand (ByteReader.valueOf check = cyclicChecksum before % 0x10000)
      .headerCheck

/-- Reads what stands behind a deflated byte string in the short form. -/
def shortTrailer (out : List UInt8) : ByteReader Unit := do
  let check ← ByteReader.bytes 4
  demand (ByteReader.valueOf check.reverse = sumChecksum out) .check

/-- Reads what stands behind the deflated byte string of a compressed file. -/
def fileTrailer (out : List UInt8) : ByteReader Unit := do
  let check ← ByteReader.bytes 4
  demand (ByteReader.valueOf check = cyclicChecksum out) .check
  let length ← ByteReader.bytes 4
  demand (ByteReader.valueOf length = out.length % Nat.pow 2 32) .length

/-- What a reading brings: a cut is no fault. -/
def keep (out : List UInt8) : Except Stop Unit → Except Fault (List UInt8)
  | .ok () | .error .cut => .ok out
  | .error (.fault fault) => .error fault

def unwrap (header : ByteReader Unit) (trailer : List UInt8 → ByteReader Unit)
    (bytes : List UInt8) : Except Fault (List UInt8) :=
  match header.run bytes with
  | .error stop => keep [] (.error stop)
  | .ok ((), rest) =>
    let (out, ending) := inflate rest
    keep out (ending.bind fun rest => ((trailer out).run rest).map (·.1))

def unwrapFile (bytes : List UInt8) : Except Fault (List UInt8) :=
  unwrap fileHeader fileTrailer bytes

/-- The byte string that was deflated, in the short form or else bare. -/
def unwrapDeflated (bytes : List UInt8) : Except Fault (List UInt8) :=
  match unwrap shortHeader shortTrailer bytes with
  | .ok out => .ok out
  | .error _ => unwrap (pure ()) (fun _ => pure ()) bytes

end CallRegistry.Compression
