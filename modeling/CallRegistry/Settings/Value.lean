import CallRegistry.Datum
import CallRegistry.Number.Word
import CallRegistry.Text.Numeral

/-!
# Values of settings

A setting comes as a datum of any kind: a text when it stands in the
environment or in a settings file, anything when it is handed in by name.  Each
reader here says what it takes for a text, a whole number or a truth value, and
why it refuses the rest.
-/

namespace CallRegistry.Settings

inductive ValueFault where
  | notText
  | notInteger
  | integerText
  | integerSize
  | integerFraction
  | notPositive
  | notTruth
  | truthText
  | unknownName
  deriving DecidableEq, Repr

namespace ValueFault

def code : ValueFault → String
  | notText => "string_type"
  | notInteger => "int_type"
  | integerText => "int_parsing"
  | integerSize => "int_parsing_size"
  | integerFraction => "int_from_float"
  | notPositive => "greater_than"
  | notTruth => "bool_type"
  | truthText => "bool_parsing"
  | unknownName => "extra_forbidden"

def message : ValueFault → String
  | notText => "Input should be a valid string"
  | notInteger => "Input should be a valid integer"
  | integerText =>
    "Input should be a valid integer, unable to parse string as an integer"
  | integerSize =>
    "Unable to parse input string as an integer, exceeded maximum size"
  | integerFraction =>
    "Input should be a valid integer, got a number with a fractional part"
  | notPositive => "Input should be greater than 0"
  | notTruth => "Input should be a valid boolean"
  | truthText =>
    "Input should be a valid boolean, unable to interpret input"
  | unknownName => "Extra inputs are not permitted"

end ValueFault

def readText : Datum → Except ValueFault String
  | .text s => .ok s
  | _ => .error .notText

def readOptionalText : Datum → Except ValueFault (Option String)
  | .null => .ok none
  | .text s => .ok (some s)
  | _ => .error .notText

/-- The integer a text writes, with white space around it. -/
def integerOfText (s : String) : Except ValueFault Int :=
  match Numeral.lax (Text.trimBy Text.isSpace s.toList) with
  | .ok i => .ok i
  | .error .malformed => .error .integerText
  | .error .tooLong => .error .integerSize

/-- Whether an integer is above the least one of 64 bits and not beyond the
greatest. -/
def isInnerWord (i : Int) : Bool :=
  isWord i && i != -Int.pow 2 63

/-- The integer a binary number equals, if it is one of 64 bits; the least one is
not taken. -/
def integerOfReal (x : Binary64) : Except ValueFault Int :=
  match x.toInt? with
  | none => .error .integerFraction
  | some i => if isInnerWord i then .ok i else .error .integerSize

def readInteger : Datum → Except ValueFault Int
  | .int i => .ok i
  | .bool b => .ok (if b then 1 else 0)
  | .real x => integerOfReal x
  | .text s => integerOfText s
  | _ => .error .notInteger

/-- A whole number above zero. -/
def readPositive (d : Datum) : Except ValueFault { n : Nat // 0 < n } :=
  match readInteger d with
  | .error fault => .error fault
  | .ok i =>
    if h : 0 < i.toNat then .ok ⟨i.toNat, h⟩ else .error .notPositive

def falseTexts : List String := ["0", "off", "f", "false", "n", "no"]

def trueTexts : List String := ["1", "on", "t", "true", "y", "yes"]

/-- The truth value a text stands for, in any case of its letters. -/
def truthOfText (s : String) : Except ValueFault Bool :=
  let lower := String.ofList (s.toList.map Char.toLower)
  if falseTexts.contains lower then .ok false
  else if trueTexts.contains lower then .ok true
  else .error .truthText

def readTruth : Datum → Except ValueFault Bool
  | .bool b => .ok b
  | .int i =>
    if i = 0 then .ok false
    else if i = 1 then .ok true
    else if isWord i then .error .truthText
    else .error .notTruth
  | .real x =>
    match x.toInt? with
    | some 0 => .ok false
    | some 1 => .ok true
    | some i =>
      if isInnerWord i then .error .truthText else .error .notTruth
    | none => .error .notTruth
  | .text s => truthOfText s
  | _ => .error .notTruth

end CallRegistry.Settings
