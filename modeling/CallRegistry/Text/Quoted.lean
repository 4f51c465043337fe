import CallRegistry.Text.Hex
import CallRegistry.Text.Unprintable

/-!
# Quoted texts

How a text is shown inside a message.  It stands between single quotes, or
between double quotes when it holds a single quote and no double one.  The
backslash, the quote that encloses the text and the characters that show nothing
are escaped; every other character stands for itself.  Of a byte string only the
bytes of printable ASCII stand for themselves.
-/

namespace CallRegistry.Text

def enclosingQuote (cs : List Char) : Char :=
  if '\'' ∈ cs ∧ '"' ∉ cs then '"' else '\''

/-- A character by the number of its code, as short as it can be. -/
def codeEscape (c : Char) : List Char :=
  if c.toNat < 0x100 then '\\' :: 'x' :: hexDigits 2 c.toNat
  else if c.toNat < 0x10000 then '\\' :: 'u' :: hexDigits 4 c.toNat
  else '\\' :: 'U' :: hexDigits 8 c.toNat

/-- One character of a text between the given quotes, given the class of the
characters that have to be escaped. -/
def escaped (isHidden : Char → Bool) (quote c : Char) : List Char :=
  if c = '\\' ∨ c = quote then ['\\', c]
  else if c = '\n' then ['\\', 'n']
  else if c = '\r' then ['\\', 'r']
  else if c = '\t' then ['\\', 't']
  else if isHidden c then codeEscape c
  else [c]

/-- The text between quotes, on lists of characters. -/
def quotedChars (isHidden : Char → Bool) (cs : List Char) : List Char :=
  let quote := enclosingQuote cs
  quote :: cs.flatMap (escaped isHidden quote) ++ [quote]

def quoted (s : String) : String :=
  String.ofList (quotedChars isUnprintable s.toList)

def quotedBytes (bytes : List UInt8) : String :=
  let isHidden (c : Char) : Bool := c.toNat < 0x20 || 0x7f ≤ c.toNat
  String.ofList
    (quotedChars isHidden (bytes.map fun b => Char.ofNat b.toNat))

end CallRegistry.Text
