/-!
# Texts in letters, digits and hyphens

A label with characters of any script is written in ASCII alone.  Its ASCII
characters come first; behind a hyphen follow numbers that say, from the least
code to the greatest, where each of the other characters is to be inserted.

The numbers are written to the base 36, their last digit first.  A number ends at
the first digit that lies below a threshold, and the thresholds are adapted to
the numbers that went before, so that numbers of about the same size are short.
-/

namespace CallRegistry.Domain.Punycode

def base : Nat := 36

/-- The digit of a value below the base: a letter, or from 26 on a decimal
digit. -/
def digit (n : Nat) : Char :=
  if n < 26 then Char.ofNat (0x61 + n) else Char.ofNat (0x16 + n)

def digitValue? (c : Char) : Option Nat :=
  if 'a' ≤ c ∧ c ≤ 'z' then some (c.toNat - 0x61)
  else if 'A' ≤ c ∧ c ≤ 'Z' then some (c.toNat - 0x41)
  else if '0' ≤ c ∧ c ≤ '9' then some (c.toNat - 0x16)
  else none

/-- The threshold of a digit: one at first, and 26 in the end.  The places of the
digits are the multiples of the base. -/
def threshold (bias place : Nat) : Nat :=
  min 26 (max 1 (place - bias))

theorem one_le_threshold (bias place : Nat) : 1 ≤ threshold bias place := by
  unfold threshold
  omega

/-- Takes the base down from a number until it is small: what is left, and how
often that was, times the base. -/
def scaledDown (n : Nat) : Nat × Nat :=
  if 455 < n then
    let (left, places) := scaledDown (n / 35)
    (left, places + base)
  else
    (n, 0)
termination_by n
decreasing_by omega

def adapted (number count : Nat) (isFirst : Bool) : Nat :=
  let damped := if isFirst then number / 700 else number / 2
  let (left, places) := scaledDown (damped + damped / count)
  places + base * left / (left + 38)

def initialBias : Nat := 72

/-- The code of the first character that is not written as it is. -/
def initialCode : Nat := 0x80

/-! ### Writing -/

def writeNumber (bias place n : Nat) : List Char :=
  let t := threshold bias place
  if n < t then [digit n]
  else
    digit (t + (n - t) % (base - t)) ::
      writeNumber bias (place + base) ((n - t) / (base - t))
termination_by n
decreasing_by
  have ht := one_le_threshold bias place
  have hle := Nat.div_le_self (n - threshold bias place)
    (base - threshold bias place)
  omega

/-- One way through the text for one code: at every character with that code
stands how many insertions were passed over since the last one. -/
def passedFor (code waiting : Nat) : List Nat → List Nat × Nat
  | [] => ([], waiting)
  | c :: rest =>
    if c < code then passedFor code (waiting + 1) rest
    else if c = code then
      let (numbers, left) := passedFor code 0 rest
      (waiting :: numbers, left)
    else passedFor code waiting rest

/-- How many insertions are passed over before each one, for the given codes from
the least to the greatest.  A code beyond `next` passes over an insertion at
every place of the text, of which `held` characters are written. -/
def passed (text : List Nat) (next waiting held : Nat) : List Nat → List Nat
  | [] => []
  | code :: codes =>
    let (numbers, left) :=
      passedFor code (waiting + (code - next) * (held + 1)) text
    numbers ++ passed text (code + 1) (left + 1) (held + numbers.length) codes

def writeNumbers (bias held : Nat) (isFirst : Bool) : List Nat → List Char
  | [] => []
  | n :: rest =>
    writeNumber bias base n ++
      writeNumbers (adapted n (held + 1) isFirst) (held + 1) false rest

def encode (cs : List Char) : List Char :=
  let plain := cs.filter (·.toNat < initialCode)
  let text := cs.map Char.toNat
  let codes :=
    ((text.filter (initialCode ≤ ·)).mergeSort (· ≤ ·)).eraseDups
  let numbers := passed text initialCode 0 plain.length codes
  plain ++ (if plain.isEmpty then [] else ['-']) ++
    writeNumbers initialBias plain.length true numbers

/-! ### Reading -/

/-- The number at the head of a text, from a place with a weight on, and what
follows it. -/
def readNumber? (bias place weight : Nat) :
    List Char → Option (Nat × List Char)
  | [] => none
  | c :: rest =>
    match digitValue? c with
    | none => none
    | some d =>
      let t := threshold bias place
      if d < t then some (d * weight, rest)
      else
        (readNumber? bias (place + base) (weight * (base - t)) rest).map
          fun (n, rest) => (n + d * weight, rest)

/-- Inserts the characters that numbers describe into a text, from a code and a
place on; `length` bounds the numbers. -/
def insertAll? (bias code place : Nat) (isFirst : Bool) (text : List Char) :
    Nat → List Char → Option (List Char)
  | _, [] => some text
  | 0, _ :: _ => none
  | length + 1, c :: rest =>
    match readNumber? bias base 1 (c :: rest) with
    | none => none
    | some (n, rest) =>
      let count := text.length + 1
      let code := code + (place + n) / count
      let place := (place + n) % count
      if code.isValidChar then
        insertAll? (adapted n count isFirst) code (place + 1) false
          (text.insertIdx place (Char.ofNat code)) length rest
      else
        none

/-- The text that letters, digits and hyphens stand for.  The last hyphen is the
mark between the two parts. -/
def decode? (cs : List Char) : Option (List Char) :=
  let back := cs.reverse
  let plain := ((back.dropWhile (· ≠ '-')).drop 1).reverse
  let numbers := (back.takeWhile (· ≠ '-')).reverse
  insertAll? initialBias initialCode 0 true plain numbers.length numbers

end CallRegistry.Domain.Punycode
