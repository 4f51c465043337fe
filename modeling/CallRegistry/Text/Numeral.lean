import CallRegistry.Number.BoundedDecimal

/-!
# Integers written as texts

An optional sign and the digits `0` to `9`, where single underscores may stand
between digits.  `Numeral.integer?` reads exactly that, with any zeros in front.

`Numeral.lax` is for settings.  It takes zeros behind a point, and passes over
the zeros in front together with all the underscores among them; behind those
zeros there may be one more minus sign.  It says whether a text is malformed or
has too many digits.

Neither takes blanks; their callers trim, each by its own notion of a blank.
-/

namespace CallRegistry.Numeral

/-- Digits with single underscores between them, given whether the character
before was a digit. -/
def digits? (afterDigit : Bool) : List Char → Option (List Nat)
  | [] => if afterDigit then some [] else none
  | c :: rest =>
    if c = '_' then
      if afterDigit then digits? false rest else none
    else
      match Text.asciiDigit? c with
      | some d => (digits? true rest).map (d :: ·)
      | none => none

def splitSign : List Char → Bool × List Char
  | '-' :: rest => (true, rest)
  | '+' :: rest => (false, rest)
  | rest => (false, rest)

def signed (negative : Bool) (ds : List Nat) : Int :=
  let n : Int := Decimal.digitsValue ds
  if negative then -n else n

def integer? (cs : List Char) : Option Int :=
  let (negative, body) := splitSign cs
  (digits? false body).map (signed negative)

/-! ### Integers among settings -/

inductive Fault where
  | malformed
  /-- More characters than the sign and the digits may have. -/
  | tooLong
  deriving DecidableEq, Repr

def isLeadingDigit (c : Char) : Bool :=
  '1' ≤ c && c ≤ '9'

/-- What is left of a text behind the zeros in front of it, of which the last
character is given.  A numeral that is all zeros keeps that last one. -/
def behindZeros? (last : Char) : List Char → Option (List Char)
  | [] => some [last]
  | c :: rest =>
    if c = '0' ∨ c = '_' then behindZeros? c rest
    else if c = '-' ∨ isLeadingDigit c then some (c :: rest)
    else if c = '.' then some (last :: c :: rest)
    else none

/-- The text without the zeros in front of it. -/
def withoutZeros? : List Char → Option (List Char)
  | [] => none
  | c :: rest =>
    if c = '0' then behindZeros? c rest
    else if c = '-' ∨ isLeadingDigit c then some (c :: rest)
    else none

/-- The text without a point and the zeros behind it, at least one. -/
def withoutPoint (cs : List Char) : List Char :=
  let zeros := (cs.dropWhile (· ≠ '.')).drop 1
  if !zeros.isEmpty && zeros.all (· = '0') then cs.takeWhile (· ≠ '.') else cs

/-- Whether no two underscores stand side by side. -/
def areSingle : List Char → Bool
  | [] => true
  | c :: rest => (c != '_' || rest.head? != some '_') && areSingle rest

/-- The text without its underscores; none when they do not stand one by one
inside of it. -/
def withoutUnderscores? (cs : List Char) : Option (List Char) :=
  if cs.head? = some '_' ∨ cs.getLast? = some '_' ∨ !areSingle cs then none
  else some (cs.filter (· ≠ '_'))

/-- A text cleared of everything that a numeral may have and does not need. -/
def cleared? (cs : List Char) : Option (List Char) := do
  let unsigned ←
    match cs with
    | '+' :: '-' :: _ => none
    | '+' :: rest => some rest
    | rest => some rest
  let (minus, body) :=
    match unsigned with
    | '-' :: rest => (['-'], rest)
    | rest => ([], rest)
  let body ← withoutZeros? body
  withoutUnderscores? (withoutPoint (minus ++ body))

/-- The most characters that the sign and the digits may have. -/
def maxLength : Nat := 4300

def strict (cs : List Char) : Except Fault Int :=
  let sign := cs.takeWhile (· = '-')
  let body := cs.drop sign.length
  let digits := body.takeWhile Char.isDigit
  if 1 < sign.length ∨ digits.isEmpty ∨
      (digits.head? = some '0' ∧ 1 < digits.length) then
    .error .malformed
  else if maxLength < sign.length + digits.length then
    .error .tooLong
  else if digits.length < body.length then
    .error .malformed
  else
    .ok (signed (!sign.isEmpty) (digits.filterMap Text.asciiDigit?))

def lax (cs : List Char) : Except Fault Int :=
  match cleared? cs with
  | some cs => strict cs
  | none => .error .malformed

end CallRegistry.Numeral
