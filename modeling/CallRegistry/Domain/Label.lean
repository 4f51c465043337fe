import CallRegistry.Domain.Direction
import CallRegistry.Domain.Letter
import CallRegistry.Domain.Neighbour
import CallRegistry.Domain.Punycode
import CallRegistry.Text.Quoted

/-!
# Labels of domain names

A label is a text of letters, digits and hyphens of any script.  It is composed,
has its hyphens inside, begins with no mark, and its characters go together.  A
label with characters beyond ASCII goes out in ASCII alone, behind the mark
`xn--`; a label behind that mark is checked as the text that it stands for.
-/

namespace CallRegistry.Domain

inductive LabelFault where
  | empty
  /-- Characters stand apart that make up one. -/
  | uncomposed
  /-- Hyphens that look like the mark of an encoded label. -/
  | hyphens
  | outerHyphen
  /-- A mark that has no letter before it. -/
  | bareMark
  /-- A character that stands in no label, and where it stands. -/
  | character (c : Char) (position : Nat) (label : String)
  /-- A joiner that does not go with its neighbours. -/
  | joiner (c : Char) (position : Nat) (label : String)
  /-- Any other character that does not go with its neighbours. -/
  | company (c : Char) (position : Nat) (label : String)
  | direction (fault : DirectionFault) (label : String)
  -- behind the mark of an encoded label
  | nothing
  | openEnd
  /-- What stands there is no text. -/
  | undecodable
  deriving DecidableEq, Repr

/-- The code of a character as it is written in messages. -/
def codeName (c : Char) : String :=
  let n := c.toNat
  let width := if n < 0x10000 then 4 else if n < 0x100000 then 5 else 6
  "U+" ++ String.ofList ((Text.hexDigits width n).map Char.toUpper)

def DirectionFault.message (label : String) : DirectionFault → String
  | .start =>
    "First codepoint in label " ++ Text.quoted label ++
      " must be directionality L, R or AL"
  | .against position isRightward =>
    "Invalid direction for codepoint at position " ++ toString position ++
      " in a " ++ (if isRightward then "left-to-right" else "right-to-left") ++
      " label"
  | .digits => "Can not mix numeral types in a right-to-left label"
  | .ending => "Label ends with illegal codepoint directionality"

def LabelFault.message : LabelFault → String
  | .empty => "Empty Label"
  | .uncomposed => "Label must be in Normalization Form C"
  | .hyphens => "Label has disallowed hyphens in 3rd and 4th position"
  | .outerHyphen => "Label must not start or end with a hyphen"
  | .bareMark => "Label begins with an illegal combining character"
  | .character c position label =>
    "Codepoint " ++ codeName c ++ " at position " ++ toString position ++
      " of " ++ Text.quoted label ++ " not allowed"
  | .joiner c position label =>
    "Unknown codepoint adjacent to joiner " ++ codeName c ++
      " at position " ++ toString position ++ " in " ++ Text.quoted label
  | .company c position label =>
    "Codepoint " ++ codeName c ++ " not allowed at position " ++
      toString position ++ " in " ++ Text.quoted label
  | .direction fault label => fault.message label
  | .nothing => "Malformed A-label, no Punycode eligible content found"
  | .openEnd => "A-label must not end with a hyphen"
  | .undecodable => "Invalid A-label"

/-- The first character of a label that may not stand where it stands; the
characters before are given in reverse. -/
def characterFault? (label : String) (before : List Char) :
    List Char → Option LabelFault
  | [] => none
  | c :: rest =>
    let position := before.length + 1
    if isLetter c then characterFault? label (c :: before) rest
    else
      match fits? before c rest with
      | some true => characterFault? label (c :: before) rest
      | some false =>
        if isJoiner c then some (.joiner c position label)
        else some (.company c position label)
      | none => some (.character c position label)

def labelFault? (cs : List Char) : Option LabelFault :=
  let label := String.ofList cs
  if cs.isEmpty then some .empty
  else if !Text.isComposed cs then some .uncomposed
  else if (cs.drop 2).take 2 = ['-', '-'] then some .hyphens
  else if cs.head? = some '-' ∨ cs.getLast? = some '-' then some .outerHyphen
  else if cs.head?.any Text.isMark then some .bareMark
  else
    match characterFault? label [] cs with
    | some fault => some fault
    | none => (directionFault? (cs.map direction)).map (.direction · label)

/-- What stands before a label that was encoded. -/
def mark : List Char := "xn--".toList

/-- What is wrong with an ASCII label, or with the text that it stands for. -/
def plainLabelFault? (cs : List Char) : Option LabelFault :=
  if mark.isPrefixOf cs then
    let encoded := cs.drop mark.length
    if encoded.isEmpty then some .nothing
    else if encoded.getLast? = some '-' then some .openEnd
    else
      match Punycode.decode? encoded with
      | some text => labelFault? text
      | none => some .undecodable
  else
    labelFault? cs

def maxLabelLength : Nat := 63

/-- A label as it goes out, if it is a proper one. -/
def encodedLabel? (cs : List Char) : Option (List Char) :=
  let isPlain := cs.all (·.toNat < 0x80)
  let fault? := if isPlain then plainLabelFault? cs else labelFault? cs
  let encoded := if isPlain then cs else mark ++ Punycode.encode cs
  if fault?.isNone ∧ encoded.length ≤ maxLabelLength then some encoded else none

end CallRegistry.Domain
