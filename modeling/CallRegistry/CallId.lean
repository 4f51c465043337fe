import CallRegistry.Text.Hex

/-!
# Call identifiers

Every call instance gets a fresh identifier, the 128 bits of a random unique
identifier in 32 lower-case hexadecimal digits.  Leading zeros are written, so
that different bits give different texts.
-/

namespace CallRegistry.CallId

/-- The text of a 128-bit identifier. -/
def ofBits (bits : BitVec 128) : String :=
  String.ofList (Text.hexDigits 32 bits.toNat)

/-- A random unique identifier made of random bits: the version and the variant
are fixed, everything else is taken over. -/
def stamp (random : BitVec 128) : BitVec 128 :=
  let free : BitVec 128 := BitVec.ofNat 128 0xffffffffffff0fff3fffffffffffffff
  let fixed : BitVec 128 := BitVec.ofNat 128 0x00000000000040008000000000000000
  (random &&& free) ||| fixed

/-- Whether a text is the identifier of a random unique identifier. -/
def isRandom (s : String) : Bool :=
  let cs := s.toList
  let digit (c : Char) := (Text.hexValue? c).isSome && !c.isUpper
  cs.length == 32 && cs.all digit && cs[12]? == some '4' &&
  ['8', '9', 'a', 'b'].any (cs[16]? == some ·)

end CallRegistry.CallId
