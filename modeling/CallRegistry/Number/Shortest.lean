import CallRegistry.Number.Binary64

/-!
# The shortest text of a number

A finite double is written with the fewest decimal digits that read back as the
same number; of two such texts the nearer one is taken, and of two equally near
ones the even one.  For each count of digits only the two neighbours of the
number on the grid of that count come into question.

Numbers from one ten-thousandth up to ten to the sixteenth are written with a
point and at least one digit behind it, all others with a power of ten.
-/

namespace CallRegistry.Binary64

/-- Decimal digits, and the power of ten that belongs to the last of them. -/
structure Digits where
  value : Nat
  scale : Int
  deriving DecidableEq, Repr

/-- Whether a number is what the given digits read back as. -/
def readsBack (x : Binary64) (d : Digits) : Bool :=
  ofDecimal x.negative d.value d.scale == some x

/-- The power of ten that belongs to the first digit of a number. -/
def leadingScale (x : Binary64) : Int :=
  let (digits, places) := x.toDecimal
  ((Nat.toDigits 10 digits).length : Int) - 1 - places

def inDigits? (x : Binary64) (count : Nat) : Option Digits :=
  let (digits, places) := x.toDecimal
  let scale := x.leadingScale - count + 1
  let dropped := (places + scale).toNat
  let grid := Nat.pow 10 dropped
  let whole := digits * Nat.pow 10 (-(places + scale)).toNat
  let below := whole / grid
  let rest := whole % grid
  let down : Digits := { value := below, scale }
  let up : Digits := { value := below + 1, scale }
  let nearUp := grid < 2 * rest ∨ (grid = 2 * rest ∧ below % 2 = 1)
  let (first, second) := if nearUp then (up, down) else (down, up)
  if x.readsBack first then some first
  else if x.readsBack second then some second
  else none

/-- The most digits that any number needs. -/
def maxShortest : Nat := 17

def shortest (x : Binary64) : Digits :=
  (((List.range maxShortest).map (· + 1)).findSome? x.inDigits?).getD
    { value := x.toDecimal.1, scale := -(x.toDecimal.2 : Int) }

/-- Digits without the zeros at their end. -/
def significant (value : Nat) : List Char :=
  ((Nat.toDigits 10 value).reverse.dropWhile (· = '0')).reverse

def powerText (power : Int) : String :=
  let digits := Nat.toDigits 10 power.natAbs
  (if power < 0 then "e-" else "e+") ++
    String.ofList (List.replicate (2 - digits.length) '0' ++ digits)

/-- Digits with a point behind the first `point` of them; zeros fill the gaps. -/
def withPoint (ds : List Char) (point : Int) : String :=
  let ds := List.replicate (1 - point).toNat '0' ++ ds
  let before := max point.toNat 1
  let ds := ds ++ List.replicate (before + 1 - ds.length) '0'
  String.ofList (ds.take before ++ '.' :: ds.drop before)

def withFirst : List Char → String
  | [] => ""
  | [d] => String.singleton d
  | d :: rest => String.ofList (d :: '.' :: rest)

def text (x : Binary64) : String :=
  let sign := if x.negative then "-" else ""
  if x.isZero then sign ++ "0.0"
  else
    let d := x.shortest
    let ds := significant d.value
    let point := ((Nat.toDigits 10 d.value).length : Int) + d.scale
    if -4 < point ∧ point ≤ 16 then sign ++ withPoint ds point
    else sign ++ withFirst ds ++ powerText (point - 1)

end CallRegistry.Binary64
