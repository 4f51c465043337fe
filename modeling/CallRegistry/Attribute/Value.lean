import CallRegistry.Attribute.Number

/-!
# Attribute values

The table service writes a value as a map whose first name is the type and
whose first entry is the content: `S` a text, `N` a number, `B` bytes, `BOOL`
and `NULL`, sets `SS`, `NS` and `BS`, a list `L` and a map `M`.  The type is
read without regard to case and any further entries are ignored.

`Attribute.read` reads a value of any shape.  A call record holds texts only, so
the result is the text the value holds, or none when it holds something else;
but everything inside the value is read, and the first fault found is the
answer.  A text comes out of `S` and of `BOOL` alone, and both hand on what
they hold without a check.

Lists and maps hold values again, and reading goes down into them as far as there is
room for that; `none` stands for room without an end.  The service keeps 32 levels,
which leave room to spare.
-/

namespace CallRegistry

inductive AttributeType where
  | text
  | number
  | binary
  | truth
  | absent
  | textSet
  | numberSet
  | binarySet
  | list
  | map
  deriving DecidableEq, Repr

namespace AttributeType

/-- The types with their names in lower case. -/
def names : List (String × AttributeType) :=
  [("s", .text), ("n", .number), ("b", .binary), ("bool", .truth),
   ("null", .absent), ("ss", .textSet), ("ns", .numberSet),
   ("bs", .binarySet), ("l", .list), ("m", .map)]

/-- The type a name stands for, in any case. -/
def ofName? (name : String) : Option AttributeType :=
  names.lookup (String.ofList (name.toList.map Char.toLower))

end AttributeType

inductive AttributeFault where
  /-- Nothing where a value should be. -/
  | untyped
  | unknownType (name : String)
  | notBytes
  | notIterable (kind : String)
  /-- A member of a set that cannot be one. -/
  | unhashable (kind : String)
  | signalingMember
  | number (fault : Attribute.NumberFault)
  /-- A value that is no map, so that it has no first name. -/
  | noNames (kind : String)
  /-- The content of a map value that is no map. -/
  | noEntries (kind : String)
  /-- A value for which there is no room left. -/
  | tooDeep
  deriving DecidableEq, Repr

namespace Attribute

def binary : Datum → Except AttributeFault (List UInt8)
  | .bytes b => .ok b
  | _ => .error .notBytes

/-- A member of a set of texts: anything that has an identity of its own. -/
def textMember : Datum → Except AttributeFault Unit
  | .list xs => .error (.unhashable (Datum.list xs).kindName)
  | .map es => .error (.unhashable (Datum.map es).kindName)
  | _ => .ok ()

def numberMember (d : Datum) : Except AttributeFault Unit :=
  match number d with
  | .ok (.notANumber true) => .error .signalingMember
  | .ok _ => .ok ()
  | .error f => .error (.number f)

def binaryMember (d : Datum) : Except AttributeFault Unit :=
  (binary d).map fun _ => ()

def setMembers (member : Datum → Except AttributeFault Unit) (d : Datum) :
    Except AttributeFault Unit :=
  match d.members? with
  | some xs => xs.forM member
  | none => .error (.notIterable d.kindName)

/-- What is wrong with a datum that is no map but stands where an attribute
value should. -/
def bareFault (d : Datum) : AttributeFault :=
  if d.isVoid then .untyped else .noNames d.kindName

/-- Goes one level down: the room that is left there. -/
def descend : Option Nat → Except AttributeFault (Option Nat)
  | none => .ok none
  | some 0 => .error .tooDeep
  | some (n + 1) => .ok (some n)

/-- Reads the members of a datum that is no list as attribute values: its first
member is no map, so the first one is at fault. -/
def bareMembers (d : Datum) (room : Option Nat) : Except AttributeFault Unit :=
  match d.members? with
  | some [] => .ok ()
  | some (x :: _) => descend room >>= fun _ => .error (bareFault x)
  | none => .error (.notIterable d.kindName)

mutual

/-- The text an attribute value holds, none when it holds something else. -/
def read (d : Datum) (room : Option Nat := none) :
    Except AttributeFault (Option String) :=
  match d with
  | .map [] => .error .untyped
  | .map ((tag, content) :: _) =>
    match AttributeType.ofName? tag with
    | some type => readContent type content room
    | none => .error (.unknownType tag)
  | d => .error (bareFault d)

def readContent (type : AttributeType) (content : Datum)
    (room : Option Nat := none) : Except AttributeFault (Option String) :=
  match type, content with
  | .text, d => .ok d.text?
  | .truth, d => .ok d.text?
  | .absent, _ => .ok none
  | .number, d =>
    match number d with
    | .ok _ => .ok none
    | .error f => .error (.number f)
  | .binary, d => (binary d).map fun _ => none
  | .textSet, d => (setMembers textMember d).map fun _ => none
  | .numberSet, d => (setMembers numberMember d).map fun _ => none
  | .binarySet, d => (setMembers binaryMember d).map fun _ => none
  | .list, .list xs => readAll xs room
  | .list, d => (bareMembers d room).map fun _ => none
  | .map, .map es => readEntries es room
  | .map, d => .error (.noEntries d.kindName)

/-- Reads every element of a list value that there is room for. -/
def readAll (xs : List Datum) (room : Option Nat := none) :
    Except AttributeFault (Option String) :=
  match xs with
  | [] => .ok none
  | x :: rest =>
    match descend room with
    | .error f => .error f
    | .ok below =>
      match read x below with
      | .ok _ => readAll rest room
      | .error f => .error f

/-- Reads every entry of a map value that there is room for. -/
def readEntries (es : List (String × Datum)) (room : Option Nat := none) :
    Except AttributeFault (Option String) :=
  match es with
  | [] => .ok none
  | (_, x) :: rest =>
    match descend room with
    | .error f => .error f
    | .ok below =>
      match read x below with
      | .ok _ => readEntries rest room
      | .error f => .error f

end

def ofText (s : String) : Datum :=
  .map [("S", .text s)]

end Attribute

end CallRegistry
