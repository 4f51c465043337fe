/-!
# Finite binary64 numbers

A finite double-precision number is kept as a sign, a mantissa and a power of
two, so that everything said about it is said in exact integers.
`Binary64.ofRatio` is the correctly rounded quotient of two natural numbers:
the spacing of the doubles around the quotient is fixed first, and the
quotient is then rounded on that grid with ties going to the even neighbour.
It is `none` exactly when the rounded value lies beyond the largest finite
double.
-/

namespace CallRegistry

/-- The integer nearest to `n / d`, the even one of two equally near. -/
def roundHalfEven (n d : Nat) : Nat :=
  let q := n / d
  let r := n % d
  if 2 * r < d then q
  else if d < 2 * r then q + 1
  else q + q % 2

/-- The greatest `k` with `2 ^ k ≤ n / d`, for positive `n` and `d`. -/
def floorLog2 (n d : Nat) : Int :=
  let k : Int := (Nat.log2 n : Int) - Nat.log2 d
  if d * Nat.pow 2 k.toNat ≤ n * Nat.pow 2 (-k).toNat then k else k - 1

/-- A finite double: `mantissa * 2 ^ exponent`, negated when `negative`. -/
structure Binary64 where
  negative : Bool
  mantissa : Nat
  exponent : Int
  deriving DecidableEq, Repr, Inhabited

namespace Binary64

/-- The least exponent, that of the subnormal numbers. -/
def minExponent : Int := -1074

def maxExponent : Int := 971

/-- The exponent of the grid on which `n / d` is rounded: 53 significant bits,
or the subnormal spacing when that is coarser. -/
def gridExponent (n d : Nat) : Int :=
  max minExponent (floorLog2 n d - 52)

/-- The number of steps of size `2 ^ e` nearest to `n / d`. -/
def roundOnGrid (n d : Nat) (e : Int) : Nat :=
  roundHalfEven (n * Nat.pow 2 (-e).toNat) (d * Nat.pow 2 e.toNat)

/-- The double nearest to `n / d`, ties to even; none when it would lie beyond
the largest finite one. -/
def ofRatio (n d : Nat) : Option Binary64 :=
  if n = 0 then
    some { negative := false, mantissa := 0, exponent := minExponent }
  else
    let e := gridExponent n d
    let m := roundOnGrid n d e
    let (m, e) := if m = Nat.pow 2 53 then (Nat.pow 2 52, e + 1)
      else (m, e)
    if maxExponent < e then none
    else some { negative := false, mantissa := m, exponent := e }

/-- The double nearest to `digits * 10 ^ scale`, with the given sign. -/
def ofDecimal (negative : Bool) (digits : Nat) (scale : Int) :
    Option Binary64 :=
  (ofRatio (digits * Nat.pow 10 scale.toNat)
    (Nat.pow 10 (-scale).toNat)).map
    ({ · with negative })

def isZero (x : Binary64) : Bool :=
  x.mantissa == 0

def numerator (x : Binary64) : Nat :=
  let n := x.mantissa * Nat.pow 2 x.exponent.toNat
  n / Nat.gcd n (Nat.pow 2 (-x.exponent).toNat)

/-- The denominator in lowest terms, a power of two. -/
def denominator (x : Binary64) : Nat :=
  let n := x.mantissa * Nat.pow 2 x.exponent.toNat
  let d := Nat.pow 2 (-x.exponent).toNat
  d / Nat.gcd n d

/-- The integer the number equals, if it is one. -/
def toInt? (x : Binary64) : Option Int :=
  if x.denominator = 1 then
    some (if x.negative then -(x.numerator : Int) else x.numerator)
  else
    none

/-- The number as `digits * 10 ^ -places`, exactly: a power of two divides the
same power of ten. -/
def toDecimal (x : Binary64) : Nat × Nat :=
  let places := Nat.log2 x.denominator
  (x.numerator * Nat.pow 5 places, places)

def toBits (x : Binary64) : Nat :=
  let sign := if x.negative then Nat.pow 2 63 else 0
  if x.mantissa < Nat.pow 2 52 then
    sign + x.mantissa
  else
    sign + (x.exponent + 1075).toNat * Nat.pow 2 52 +
      (x.mantissa - Nat.pow 2 52)

end Binary64

end CallRegistry
