import CallRegistry.Compression.PrefixCode

/-!
# Inflating

A deflated byte string is made of blocks.  A block holds its bytes as they are, or
it is a stream of symbols, each of which stands for a byte or for a repetition of
bytes that came out before.  The codes of the symbols are fixed, or the block
begins with the lengths of its own codes.

What comes out before a stop is kept: `Inflated` holds it beside the reason of the
stop.
-/

namespace CallRegistry.Compression

structure BlockCodes where
  /-- Bytes, the end of the block, and lengths of repetitions. -/
  literals : PrefixCode
  /-- How far repeated bytes lie back. -/
  distances : PrefixCode

/-- What a symbol of a block stands for. -/
inductive Piece where
  | byte (b : UInt8)
  | repetition (length distance : Nat)
  | finish
  deriving DecidableEq, Repr

/-- The least length of each length symbol, and how many bits tell how much more
it is. -/
def lengthSteps : List (Nat × Nat) :=
  [(3, 0), (4, 0), (5, 0), (6, 0), (7, 0), (8, 0), (9, 0), (10, 0), (11, 1),
    (13, 1), (15, 1), (17, 1), (19, 2), (23, 2), (27, 2), (31, 2), (35, 3),
    (43, 3), (51, 3), (59, 3), (67, 4), (83, 4), (99, 4), (115, 4), (131, 5),
    (163, 5), (195, 5), (227, 5), (258, 0)]

/-- The least distance of each distance symbol, and how many bits tell how much
more it is. -/
def distanceSteps : List (Nat × Nat) :=
  [(1, 0), (2, 0), (3, 0), (4, 0), (5, 1), (7, 1), (9, 2), (13, 2), (17, 3),
    (25, 3), (33, 4), (49, 4), (65, 5), (97, 5), (129, 6), (193, 6), (257, 7),
    (385, 7), (513, 8), (769, 8), (1025, 9), (1537, 9), (2049, 10), (3073, 10),
    (4097, 11), (6145, 11), (8193, 12), (12289, 12), (16385, 13), (24577, 13)]

def endSymbol : Nat := 256

def amount (steps : List (Nat × Nat)) (symbol : Nat) (fault : Fault) :
    BitReader Nat :=
  match steps[symbol]? with
  | some (least, width) => return least + (← BitReader.number width)
  | none => BitReader.refuse fault

def BlockCodes.piece (c : BlockCodes) : BitReader Piece := do
  let s ← c.literals.symbol .literal
  if s < endSymbol then return .byte (UInt8.ofNat s)
  else if s = endSymbol then return .finish
  else
    let length ← amount lengthSteps (s - endSymbol - 1) .literal
    let d ← c.distances.symbol .distance
    let distance ← amount distanceSteps d .distance
    return .repetition length distance

/-! ### The codes of a block -/

def fixedCodes : BlockCodes where
  literals := .ofLengths
    (List.replicate 144 8 ++ List.replicate 112 9 ++ List.replicate 24 7 ++
      List.replicate 8 8)
  distances := .ofLengths (List.replicate 32 5)

/-- The symbols for lengths of codes, in the order in which the lengths of their
own codes come. -/
def lengthSymbols : List Nat :=
  [16, 17, 18, 0, 8, 7, 9, 6, 10, 5, 11, 4, 12, 3, 13, 2, 14, 1, 15]

def numbers (width : Nat) : Nat → BitReader (List Nat)
  | 0 => return []
  | count + 1 => do
    let n ← BitReader.number width
    return n :: (← numbers width count)

/-- Reads the code of the lengths of codes.  It may have no symbols at all, but it
may not be incomplete otherwise. -/
def lengthCode (count : Nat) : BitReader PrefixCode := do
  let given := lengthSymbols.zip (← numbers 3 count)
  let code := PrefixCode.ofLengths
    ((List.range lengthSymbols.length).map fun s => (given.lookup s).getD 0)
  if code.counts.isEmpty || code.isComplete then return code
  else BitReader.refuse .lengthCode

/-- Reads so many lengths of codes, the last one in front; `fuel` bounds the
symbols.  A symbol stands for a length, for the last length again, or for zeros;
where there is no symbol at all every bit is a zero. -/
def lengthsUpTo (code : PrefixCode) (count : Nat) :
    Nat → List Nat → BitReader (List Nat)
  | 0, _ => BitReader.refuse .repetition
  | fuel + 1, found => do
    if count ≤ found.length then return found
    let s := (← code.symbol?).getD 0
    if s < 16 then lengthsUpTo code count fuel (s :: found)
    else
      let (width, least) :=
        if s = 16 then (2, 3) else if s = 17 then (3, 3) else (7, 11)
      let times := least + (← BitReader.number width)
      let last := if s = 16 then found.head? else some 0
      match last with
      | none => BitReader.refuse .repetition
      | some length =>
        if count < found.length + times then BitReader.refuse .repetition
        else
          lengthsUpTo code count fuel (List.replicate times length ++ found)

/-- Whether a code of a block is fit for use: it is complete, or it has no code
longer than one bit. -/
def isUsable (c : PrefixCode) : Bool :=
  c.isComplete || (c.isUnique && c.isTiny)

def blockCodes : BitReader BlockCodes := do
  let literals := 257 + (← BitReader.number 5)
  let distances := 1 + (← BitReader.number 5)
  let count := 4 + (← BitReader.number 4)
  if 286 < literals ∨ 30 < distances then BitReader.refuse .manySymbols
  else
    let code ← lengthCode count
    let total := literals + distances
    let lengths := (← lengthsUpTo code total (total + 1) []).reverse
    let c : BlockCodes :=
      { literals := .ofLengths (lengths.take literals)
        distances := .ofLengths (lengths.drop literals) }
    if lengths[endSymbol]? = some 0 then BitReader.refuse .noEnd
    else if !isUsable c.literals then BitReader.refuse .literalCode
    else if !isUsable c.distances then BitReader.refuse .distanceCode
    else return c

/-! ### Blocks -/

/-- What has come out, and either the bits that are left or why there was a
stop. -/
structure Inflated where
  out : Array UInt8
  ending : Except Stop Bits

/-- The bytes with a repetition of bytes behind them. -/
def withRepetition (out : Array UInt8) (length distance : Nat) : Array UInt8 :=
  length.fold (fun _ _ out => out.push (out.getD (out.size - distance) 0)) out

def inflateSymbols (codes : BlockCodes) : Nat → Array UInt8 → Bits → Inflated
  | 0, out, _ => { out, ending := .error .cut }
  | fuel + 1, out, bits =>
    match codes.piece.run bits with
    | .error stop => { out, ending := .error stop }
    | .ok (.finish, rest) => { out, ending := .ok rest }
    | .ok (.byte b, rest) => inflateSymbols codes fuel (out.push b) rest
    | .ok (.repetition length distance, rest) =>
      if out.size < distance then { out, ending := .error (.fault .tooFar) }
      else inflateSymbols codes fuel (withRepetition out length distance) rest

def bytesOf : Nat → Bits → List UInt8
  | 0, _ => []
  | n + 1, bits =>
    let taken := bits.take 8
    if taken.length < 8 then []
    else UInt8.ofNat (valueOf taken) :: bytesOf n (bits.drop 8)

/-- Reads the length of a block of bytes as they are, which comes twice. -/
def storedLength : BitReader Nat := do
  BitReader.align
  let length ← BitReader.number 16
  let inverse ← BitReader.number 16
  if length + inverse = 0xffff then return length
  else BitReader.refuse .storedLength

def inflateStored (out : Array UInt8) (bits : Bits) : Inflated :=
  match storedLength.run bits with
  | .error stop => { out, ending := .error stop }
  | .ok (length, rest) =>
    let bytes := bytesOf length rest
    { out := out ++ bytes
      ending :=
        if bytes.length < length then .error .cut
        else .ok (rest.drop (8 * length)) }

def inflateBlock (kind : Nat) (out : Array UInt8) (bits : Bits) : Inflated :=
  if kind = 0 then inflateStored out bits
  else if kind = 1 then inflateSymbols fixedCodes (bits.length + 1) out bits
  else if kind = 2 then
    match blockCodes.run bits with
    | .error stop => { out, ending := .error stop }
    | .ok (codes, rest) => inflateSymbols codes (rest.length + 1) out rest
  else { out, ending := .error (.fault .blockKind) }

/-- Reads whether a block is the last one, and its kind. -/
def blockHead : BitReader (Bool × Nat) := do
  let head ← BitReader.number 3
  return (head % 2 = 1, head / 2)

/-- Inflates block after block; `fuel` bounds their number. -/
def inflateBlocks : Nat → Array UInt8 → Bits → Inflated
  | 0, out, _ => { out, ending := .error .cut }
  | fuel + 1, out, bits =>
    match blockHead.run bits with
    | .error stop => { out, ending := .error stop }
    | .ok ((isLast, kind), rest) =>
      let block := inflateBlock kind out rest
      match block.ending with
      | .ok rest => if isLast then block else inflateBlocks fuel block.out rest
      | .error _ => block

/-- Inflates a byte string: what comes out, and the bytes behind it. -/
def inflate (bytes : List UInt8) :
    List UInt8 × Except Stop (List UInt8) :=
  let bits := bitsOf bytes
  let inflated := inflateBlocks bits.length #[] bits
  (inflated.out.toList,
    inflated.ending.map fun rest =>
      bytes.drop (bytes.length - rest.length / 8))

end CallRegistry.Compression
