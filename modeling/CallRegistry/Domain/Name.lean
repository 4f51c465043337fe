import CallRegistry.Domain.Label
import CallRegistry.Text.Split

/-!
# Domain names of all scripts

A domain name is made of labels between points, and a point may stand at its end.
A name goes out in ASCII alone, and can be read back as a name of all scripts.
Every label is checked on the way, whatever it is written in: one that stands for
no proper text has no place in a name.
-/

namespace CallRegistry.Domain

def isPoint (c : Char) : Bool :=
  c == '.' || c == '\u3002' || c == '\uff0e' || c == '\uff61'

/-- The labels of a name, and whether a point stands at its end. -/
def labels (cs : List Char) : List (List Char) × Bool :=
  let labels := Text.pieces '.' (cs.map fun c => if isPoint c then '.' else c)
  let isClosed := 1 < labels.length && labels.getLast? == some []
  (if isClosed then labels.dropLast else labels, isClosed)

def maxLength : Nat := 253

/-- A name in lower case as it goes out, if every label is a proper one. -/
def encoded? (cs : List Char) : Option (List Char) := do
  let (labels, isClosed) := labels cs
  guard (cs.length ≤ maxLength + 1)
  let written ← labels.mapM encodedLabel?
  let name := ['.'].intercalate (written ++ if isClosed then [[]] else [])
  guard (name.length ≤ if isClosed then maxLength + 1 else maxLength)
  return name

/-- What keeps an ASCII name from being read back. -/
def readingFault? (cs : List Char) : Option LabelFault :=
  (labels cs).1.findSome? plainLabelFault?

end CallRegistry.Domain
