import CallRegistry.CallRecord
import CallRegistry.Attribute.Value

/-!
# Call records as items of the table

An item holds a call record under five attributes, all of them texts.
`CallRecord.toItem` writes it.  `CallRecord.ofItem` reads an item of any shape:
the five attributes are looked up and read in the order of the table, the first
fault being the answer, and only then are the texts checked.  Attributes under
other names are never looked at.

A fault is either one that a corrupt item is expected to cause, which is
reported as a failed conversion, or one that nothing provides for.
-/

namespace CallRegistry

namespace CallRecord

def Field.attributeName : Field → String
  | .groupId => "groupConferenceId"
  | .callId => "jvbConferenceId"
  | .backendHost => "jvbHost"
  | .backendRegion => "region"
  | .creator => "creator"

def toItem (r : CallRecord) : Datum :=
  .map (Field.all.map fun f => (f.attributeName, Attribute.ofText (r.get f)))

end CallRecord

inductive ItemFault where
  /-- The item is of a kind without attributes. -/
  | noAttributes (item : Datum)
  | missing (name : String)
  | unreadable (fault : AttributeFault)
  | field (field : CallRecord.Field)

/-- What sort of fault it is, by the name it carries in messages. -/
inductive FaultSort where
  | key
  | shape
  | value
  /-- A member asked of a value that does not have it. -/
  | member
  /-- An integer beyond 64 bits. -/
  | range
  /-- Values nested too deep to be gone into. -/
  | depth
  | arithmetic (worst : DecimalSignal)
  deriving DecidableEq, Repr

namespace FaultSort

def signalName : DecimalSignal → String
  | .overflow => "Overflow"
  | .underflow => "Underflow"
  | .inexact => "Inexact"
  | .rounded => "Rounded"
  | .clamped => "Clamped"

/-- The name a sort carries in messages. -/
def name : FaultSort → String
  | .key => "KeyError"
  | .shape => "TypeError"
  | .value => "ValueError"
  | .member => "AttributeError"
  | .range => "OverflowError"
  | .depth => "RecursionError"
  | .arithmetic worst => signalName worst

/-- Whether a fault of this sort is reported as a failed conversion. -/
def isExpected : FaultSort → Bool
  | .key | .shape | .value => true
  | .member | .range | .depth | .arithmetic _ => false

end FaultSort

namespace Attribute.NumberFault

def sort : NumberFault → FaultSort
  | .kind _ => .shape
  | .parts _ => .value
  | .beyondWord _ => .range
  | .lost [] => .arithmetic .rounded
  | .lost (worst :: _) => .arithmetic worst

def message : NumberFault → String
  | .kind name => "conversion from " ++ name ++ " to Decimal is not supported"
  | .parts reason => reason
  | .beyondWord isExponent =>
    "Python int too large to convert to C " ++
      if isExponent then "ssize_t" else "long"
  | .lost signals =>
    let shown (s : DecimalSignal) :=
      "<class 'decimal." ++ FaultSort.signalName s ++ "'>"
    "[" ++ ", ".intercalate (signals.map shown) ++ "]"

end Attribute.NumberFault

namespace AttributeFault

def sort : AttributeFault → FaultSort
  | .number f => f.sort
  | .noNames _ | .noEntries _ => .member
  | .tooDeep => .depth
  | _ => .shape

def message : AttributeFault → String
  | .untyped =>
    "Value must be a nonempty dictionary whose key is a valid dynamodb type."
  | .unknownType name => "Dynamodb type " ++ name ++ " is not supported"
  | .notBytes =>
    "Value must be of the following types: " ++
      "<class 'bytearray'>, <class 'bytes'>"
  | .notIterable kind => "'" ++ kind ++ "' object is not iterable"
  | .unhashable kind => "unhashable type: '" ++ kind ++ "'"
  | .signalingMember => "Cannot hash a signaling NaN value"
  | .number f => f.message
  | .noNames kind => "'" ++ kind ++ "' object has no attribute 'keys'"
  | .noEntries kind => "'" ++ kind ++ "' object has no attribute 'items'"
  | .tooDeep => "maximum recursion depth exceeded"

end AttributeFault

namespace ItemFault

def sort : ItemFault → FaultSort
  | .noAttributes _ => .shape
  | .missing _ => .key
  | .unreadable f => f.sort
  | .field _ => .value

def message : ItemFault → String
  | .noAttributes (.text _) => "string indices must be integers, not 'str'"
  | .noAttributes (.list _) => "list indices must be integers or slices, not str"
  | .noAttributes (.bytes _) => "byte indices must be integers or slices, not str"
  | .noAttributes d => "'" ++ d.kindName ++ "' object is not subscriptable"
  | .missing name => name
  | .unreadable f => f.message
  | .field f => CallRecord.emptyFieldMessage f

/-- The fault with its sort, as a failed conversion shows it. -/
def written (f : ItemFault) : String :=
  f.sort.name ++ "(" ++ Text.quoted f.message ++ ")"

end ItemFault

namespace CallRecord

/-- The text an item holds for a field, none when it holds something else. -/
def textOfItem (item : Datum) (f : Field) (room : Option Nat := none) :
    Except ItemFault (Option String) :=
  match item with
  | .map entries =>
    match entries.lookup f.attributeName with
    | some value => (Attribute.read value room).mapError .unreadable
    | none => .error (.missing f.attributeName)
  | item => .error (.noAttributes item)

/-- The record an item holds, whose attributes are read with some room for what is
nested in them. -/
def ofItem (item : Datum) (room : Option Nat := none) :
    Except ItemFault CallRecord := do
  let groupId ← textOfItem item .groupId room
  let callId ← textOfItem item .callId room
  let backendHost ← textOfItem item .backendHost room
  let backendRegion ← textOfItem item .backendRegion room
  let creator ← textOfItem item .creator room
  let texts : Field → Option String
    | .groupId => groupId
    | .callId => callId
    | .backendHost => backendHost
    | .backendRegion => backendRegion
    | .creator => creator
  (ofFields texts).mapError .field

end CallRecord

end CallRegistry
