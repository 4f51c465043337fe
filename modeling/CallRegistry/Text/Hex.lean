/-!
# Hexadecimal digits

Numbers in a fixed count of lower-case hexadecimal digits, and byte strings as
two digits a byte.
-/

namespace CallRegistry.Text

def hexDigit (n : Nat) : Char :=
  if n < 10 then Char.ofNat (0x30 + n) else Char.ofNat (0x57 + n)

def hexValue? (c : Char) : Option Nat :=
  if '0' ≤ c ∧ c ≤ '9' then some (c.toNat - 0x30)
  else if 'a' ≤ c ∧ c ≤ 'f' then some (c.toNat - 0x57)
  else if 'A' ≤ c ∧ c ≤ 'F' then some (c.toNat - 0x37)
  else none

/-- The last `width` hexadecimal digits of a number. -/
def hexDigits : Nat → Nat → List Char
  | 0, _ => []
  | width + 1, n => hexDigits width (n / 16) ++ [hexDigit (n % 16)]

/-- The number that a list of hexadecimal digits writes. -/
def ofHexDigits? (cs : List Char) : Option Nat :=
  cs.foldlM (fun n c => (hexValue? c).map (16 * n + ·)) 0

def hexOfBytes (bs : List UInt8) : String :=
  String.ofList (bs.flatMap fun b => hexDigits 2 b.toNat)

def bytesOfHex? : List Char → Option (List UInt8)
  | [] => some []
  | a :: b :: rest => do
    let x ← hexValue? a
    let y ← hexValue? b
    let tail ← bytesOfHex? rest
    some (UInt8.ofNat (16 * x + y) :: tail)
  | [_] => none

end CallRegistry.Text
