import CallRegistry.Datum
import CallRegistry.Number.BoundedDecimal
import CallRegistry.Number.Word

/-!
# Numbers as attribute values

What may stand for a number in an attribute value.  A text is read as a
decimal; integers and binary numbers are taken by their value; a list of three
gives sign, digits and exponent.  Everything else is no number.
-/

namespace CallRegistry.Attribute

inductive NumberFault where
  /-- The kind of datum never stands for a number. -/
  | kind (name : String)
  /-- A list that is not sign, digits and exponent. -/
  | parts (reason : String)
  /-- A part that is no integer of 64 bits; the exponent is one of its own
kind. -/
  | beyondWord (isExponent : Bool)
  /-- The number cannot be kept exactly. -/
  | lost (signals : List DecimalSignal)
  deriving DecidableEq, Repr

/-- A whole number, where truth values count as zero and one. -/
def whole? : Datum → Option Int
  | .int i => some i
  | .bool b => some (if b then 1 else 0)
  | _ => none

/-- A part of a number: an integer of 64 bits, else it is refused for the given
reason. -/
def part (d : Datum) (reason : String) (isExponent : Bool) :
    Except NumberFault Int :=
  match whole? d with
  | none => .error (.parts reason)
  | some i => if isWord i then .ok i else .error (.beyondWord isExponent)

def partsSign (d : Datum) : Except NumberFault Bool := do
  let reason := "sign must be an integer with the value 0 or 1"
  match ← part d reason false with
  | 0 => return false
  | 1 => return true
  | _ => .error (.parts reason)

/-- What is asked of the digits of a number given in parts. -/
def digitsReason : String := "coefficient must be a tuple of digits"

def partsDigit (d : Datum) : Except NumberFault Nat := do
  let i ← part d digitsReason false
  if 0 ≤ i ∧ i ≤ 9 then return i.toNat else .error (.parts digitsReason)

def partsDigits (d : Datum) : Except NumberFault (List Nat) :=
  match d with
  | .list ds => ds.mapM partsDigit
  | _ => .error (.parts digitsReason)

/-- What stands behind the digits of a number given in parts. -/
inductive PartsKind where
  | exponent (e : Int)
  | infinite
  | quiet
  | signaling
  deriving DecidableEq, Repr

/-- An exponent, or the letter of a special number. -/
def partsKind (d : Datum) : Except NumberFault PartsKind :=
  match d with
  | .text s =>
    match [("F", PartsKind.infinite), ("n", .quiet), ("N", .signaling)].lookup s with
    | some kind => .ok kind
    | none =>
      .error (.parts
        "string argument in the third position must be 'F', 'n' or 'N'")
  | d => (part d "exponent must be an integer" true).map .exponent

/-- A decimal, with what was lost as the fault. -/
def keep (d : Except (List DecimalSignal) Decimal) :
    Except NumberFault Decimal :=
  d.mapError .lost

/-- A number given as sign, digits and exponent; in place of the exponent a
letter names a special number.  The digits are looked at last. -/
def ofParts : List Datum → Except NumberFault Decimal
  | [sign, digits, last] => do
    let negative ← partsSign sign
    let kind ← partsKind last
    let ds ← partsDigits digits
    match kind with
    | .exponent e => keep (Decimal.fit negative (Decimal.digitsValue ds) e)
    | .infinite => return .infinite negative
    | .quiet => return .notANumber false
    | .signaling => return .notANumber (Decimal.isPayload ds)
  | _ => .error (.parts "argument must be a sequence of length 3")

def number : Datum → Except NumberFault Decimal
  | .text s => keep (Decimal.ofText s)
  | .int i => keep (Decimal.ofInt i)
  | .bool b => keep (Decimal.ofInt (if b then 1 else 0))
  | .real x => keep (Decimal.ofBinary64 x)
  | .list parts => ofParts parts
  | d => .error (.kind d.kindName)

end CallRegistry.Attribute
