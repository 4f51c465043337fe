import CallRegistry.Compression.Bits

/-!
# Canonical prefix codes

A prefix code is given by the length of the code of each symbol alone: shorter
codes come before longer ones, and of two symbols with codes of one length the
lesser symbol has the lesser code.  A code is complete when every stream of bits
begins with the code of a symbol.
-/

namespace CallRegistry.Compression

structure PrefixCode where
  /-- How many codes there are of each length, from length one on. -/
  counts : List Nat
  /-- The symbols in the order of their codes. -/
  symbols : List Nat
  deriving DecidableEq, Repr

namespace PrefixCode

def maxLength : Nat := 15

/-- The symbols with codes of a length, given the length of each one's code. -/
def symbolsOf (lengths : List Nat) (length : Nat) : List Nat :=
  (lengths.zipIdx.filter (·.1 == length)).map (·.2)

/-- The code that lengths describe; a symbol with the length zero has no
code. -/
def ofLengths (lengths : List Nat) : PrefixCode :=
  let used := (List.range (lengths.foldl max 0)).map (· + 1)
  { counts := used.map fun length => (symbolsOf lengths length).length
    symbols := used.flatMap (symbolsOf lengths) }

/-- How much of all streams the codes cover, of a whole that is two to the power of
the greatest length. -/
def coverage (c : PrefixCode) : Nat :=
  (c.counts.zipIdx.map fun (count, k) =>
    count * Nat.pow 2 (maxLength - (k + 1))).foldr (· + ·) 0

def isUnique (c : PrefixCode) : Bool :=
  c.coverage ≤ Nat.pow 2 maxLength

/-- Whether every stream begins with the code of just one symbol. -/
def isComplete (c : PrefixCode) : Bool :=
  c.coverage == Nat.pow 2 maxLength

def isTiny (c : PrefixCode) : Bool :=
  c.counts.length ≤ 1

/-- The place among all symbols of the code at the head of a stream, from a length
on: `first` is the least code of that length and `before` the number of shorter
ones, and `code` holds the bits read so far.  None when the bits are no code. -/
def place? (first before code : Nat) : List Nat → Bits →
    Except Stop (Option Nat × Bits)
  | [], bits => .ok (none, bits)
  | _ :: _, [] => .error .cut
  | count :: counts, b :: bits =>
    let code := 2 * code + b.toNat
    if code < first + count then .ok (some (before + (code - first)), bits)
    else place? (2 * (first + count)) (before + count) code counts bits

/-- Reads a symbol; none when the bits are no code.  Even a code without symbols
takes a bit to find that out. -/
def symbol? (c : PrefixCode) : BitReader (Option Nat) := fun bits =>
  let counts := if c.counts.isEmpty then [0] else c.counts
  (place? 0 0 0 counts bits).map fun (place, bits) =>
    (place.bind (c.symbols[·]?), bits)

def symbol (c : PrefixCode) (fault : Fault) : BitReader Nat := do
  match ← c.symbol? with
  | some s => return s
  | none => BitReader.refuse fault

end PrefixCode

end CallRegistry.Compression
