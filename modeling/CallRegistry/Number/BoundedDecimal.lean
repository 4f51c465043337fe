import CallRegistry.Number.Binary64
import CallRegistry.Text.Blank

/-!
# Decimal numbers of bounded length

The table service keeps numbers of at most 38 significant digits and of a
bounded exponent.  A number is read exactly or not at all: `signals` lists
what would have been lost or bent in keeping it, and reading succeeds when the
list is empty.  A text that is no number at all is read as "not a number"
rather than refused.
-/

namespace CallRegistry

/-- What goes wrong when a number does not fit, in order of severity. -/
inductive DecimalSignal where
  | overflow
  | underflow
  | inexact
  | rounded
  | clamped
  deriving DecidableEq, Repr

inductive Decimal where
  /-- A text that is no number; a signaling one has no identity in a set. -/
  | notANumber (signaling : Bool)
  | infinite (negative : Bool)
  /-- The number `digits * 10 ^ exponent`. -/
  | finite (negative : Bool) (digits : Nat) (exponent : Int)
  deriving DecidableEq, Repr

namespace Decimal

def maxDigits : Nat := 38

/-- The greatest exponent of a leading digit. -/
def maxLeading : Int := 126

/-- The least exponent of a leading digit of a number in full precision. -/
def minLeading : Int := -128

/-- The least exponent of a last digit. -/
def minLast : Int := minLeading - maxDigits + 1

def digitCount (n : Nat) : Nat :=
  (Nat.toDigits 10 n).length

/-- What is lost by dropping the last `k` digits of `c`. -/
def droppedSignals (c k : Nat) : List DecimalSignal :=
  if c % Nat.pow 10 k = 0 then [.rounded] else [.inexact, .rounded]

/-- Everything that keeps `c * 10 ^ e` from being held exactly. -/
def signals (c : Nat) (e : Int) : List DecimalSignal :=
  if c = 0 then
    if maxLeading < e ∨ e < minLast then [.clamped] else []
  else
    let n := digitCount c
    let leading := e + n - 1
    if maxLeading < leading then
      [.overflow, .inexact, .rounded]
    else if leading < minLeading then
      if e < minLast then
        let k := (minLast - e).toNat
        if n < k then
          -- not even a rounded digit is left
          [.underflow, .inexact, .rounded, .clamped]
        else if c % Nat.pow 10 k = 0 then
          [.rounded]
        else if roundHalfEven c (Nat.pow 10 k) = 0 then
          [.underflow, .inexact, .rounded, .clamped]
        else
          [.underflow, .inexact, .rounded]
      else
        []
    else if n ≤ maxDigits then
      []
    else
      let k := n - maxDigits
      if leading = maxLeading ∧
          roundHalfEven c (Nat.pow 10 k) = Nat.pow 10 maxDigits then
        [.overflow, .inexact, .rounded]
      else
        droppedSignals c k

/-- The number, if it can be held exactly. -/
def fit (negative : Bool) (c : Nat) (e : Int) :
    Except (List DecimalSignal) Decimal :=
  match signals c e with
  | [] => .ok (.finite negative c e)
  | lost => .error lost

def digitsValue (ds : List Nat) : Nat :=
  ds.foldl (fun n d => 10 * n + d) 0

def allDigits? (cs : List Char) : Option (List Nat) :=
  cs.mapM Text.decimalDigit?

/-- The exponent written after its mark: an optional sign and digits. -/
def exponent? (cs : List Char) : Option Int :=
  let read (cs : List Char) : Option Nat :=
    match allDigits? cs with
    | some (d :: ds) => some (digitsValue (d :: ds))
    | _ => none
  match cs with
  | '+' :: r => (read r).map Int.ofNat
  | '-' :: r => (read r).map fun n => -(n : Int)
  | r => (read r).map Int.ofNat

/-- Digits with at most one point among them: their value, and how many stand
behind the point. -/
def coefficient? (cs : List Char) : Option (Nat × Nat) :=
  let whole := cs.takeWhile (· ≠ '.')
  let rest := cs.dropWhile (· ≠ '.')
  match allDigits? whole, allDigits? (rest.drop 1) with
  | some ws, some fs =>
    if ws.isEmpty ∧ fs.isEmpty then none
    else some (digitsValue (ws ++ fs), fs.length)
  | _, _ => none

def isPayload (ds : List Nat) : Bool :=
  (ds.dropWhile (· = 0)).length ≤ maxDigits

/-- An unsigned number: a special word, or digits with an optional exponent. -/
def unsigned? (negative : Bool) (cs : List Char) :
    Option (Except (List DecimalSignal) Decimal) :=
  let lower := cs.map Char.toLower
  if lower = "inf".toList ∨ lower = "infinity".toList then
    some (.ok (.infinite negative))
  else if lower.take 3 = "nan".toList then
    (allDigits? (cs.drop 3)).map fun _ => .ok (.notANumber false)
  else if lower.take 4 = "snan".toList then
    (allDigits? (cs.drop 4)).map fun ds =>
      .ok (.notANumber (isPayload ds))
  else
    let body := cs.takeWhile fun c => c ≠ 'e' ∧ c ≠ 'E'
    let tail := cs.dropWhile fun c => c ≠ 'e' ∧ c ≠ 'E'
    let power := if tail.isEmpty then some 0 else exponent? (tail.drop 1)
    match coefficient? body, power with
    | some (c, places), some e => some (fit negative c (e - places))
    | _, _ => none

/-- A number written as a text; a text that is no number is "not a number". -/
def ofText (s : String) : Except (List DecimalSignal) Decimal :=
  let read :=
    match s.toList with
    | '+' :: r => unsigned? false r
    | '-' :: r => unsigned? true r
    | r => unsigned? false r
  read.getD (.ok (.notANumber false))

def ofInt (i : Int) : Except (List DecimalSignal) Decimal :=
  fit (i < 0) i.natAbs 0

/-- A binary number as a decimal, by its exact value. -/
def ofBinary64 (x : Binary64) : Except (List DecimalSignal) Decimal :=
  let (c, places) := x.toDecimal
  fit x.negative c (-(places : Int))

end Decimal

end CallRegistry
