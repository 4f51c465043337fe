import CallRegistry.Form

/-!
# Call records

A call record names the call instance that is live for a group: the group, the
identifier of the instance, the host and region that serve it, and the user
who created it.  All five are non-empty texts, which is part of the type, so
that a record that exists is a valid one.  Records are replaced and never
changed: `assign` and `erase` refuse every name.
-/

namespace CallRegistry

/-- A text with at least one character. -/
abbrev NonemptyText := { s : String // s ≠ "" }

def NonemptyText.of? : Option String → Option NonemptyText
  | some s => if h : s ≠ "" then some ⟨s, h⟩ else none
  | none => none

/-- The call instance that is live for a group. -/
structure CallRecord where
  groupId : NonemptyText
  callId : NonemptyText
  backendHost : NonemptyText
  backendRegion : NonemptyText
  creator : NonemptyText
  deriving DecidableEq

namespace CallRecord

inductive Field where
  | groupId
  | callId
  | backendHost
  | backendRegion
  | creator
  deriving DecidableEq, Repr

/-- The fields in the order in which they are checked and shown. -/
def Field.all : List Field :=
  [.groupId, .callId, .backendHost, .backendRegion, .creator]

def Field.name : Field → String
  | .groupId => "group_id"
  | .callId => "call_id"
  | .backendHost => "backend_host"
  | .backendRegion => "backend_region"
  | .creator => "creator"

def get (r : CallRecord) : Field → String
  | .groupId => r.groupId
  | .callId => r.callId
  | .backendHost => r.backendHost
  | .backendRegion => r.backendRegion
  | .creator => r.creator

inductive Fault where
  /-- The names handed in are not those of the fields. -/
  | fields
  /-- The first field that holds no text, or an empty one. -/
  | empty (field : Field)
  deriving DecidableEq, Repr

def emptyFieldMessage (f : Field) : String :=
  "CallRecord." ++ f.name ++ " must be a non-empty string"

def Fault.message : Fault → String
  | .fields => "fields do not match"
  | .empty f => emptyFieldMessage f

/-- The non-empty text of a field, or the field as the one at fault. -/
def require (value : Field → Option String) (f : Field) :
    Except Field NonemptyText :=
  match NonemptyText.of? (value f) with
  | some s => .ok s
  | none => .error f

/-- The record with the given texts, or the first field without one. -/
def ofFields (value : Field → Option String) : Except Field CallRecord := do
  let groupId ← require value .groupId
  let callId ← require value .callId
  let backendHost ← require value .backendHost
  let backendRegion ← require value .backendRegion
  let creator ← require value .creator
  return { groupId, callId, backendHost, backendRegion, creator }

/-- The record whose fields are handed in by name. -/
def ofForm (form : Form) : Except Fault CallRecord :=
  let names := Field.all.map Field.name
  if form.fits names names then
    (ofFields fun f => (form.value f.name).text?).mapError .empty
  else
    .error .fields

/-- A record for a new call of a group: every field but the call identifier is
handed in by name. -/
def ofNewCall (callId : String) (form : Form) : Except Fault CallRecord :=
  let names := (Field.all.filter (· ≠ .callId)).map Field.name
  if form.fits names names then
    let value (f : Field) : Option String :=
      if f = .callId then some callId else (form.value f.name).text?
    (ofFields value).mapError .empty
  else
    .error .fields

/-- The record in one line. -/
def describe (r : CallRecord) : String :=
  let part (f : Field) := f.name ++ "=" ++ Text.quoted (r.get f)
  "CallRecord(" ++ ", ".intercalate (Field.all.map part) ++ ")"

inductive Refusal where
  | assigned (name : String)
  | erased (name : String)
  deriving DecidableEq, Repr

def Refusal.message : Refusal → String
  | .assigned name => "cannot assign to field " ++ Text.quoted name
  | .erased name => "cannot delete field " ++ Text.quoted name

/-- Assigning a field is refused, whatever its name. -/
def assign (_ : CallRecord) (name : String) (_ : Datum) :
    Except Refusal CallRecord :=
  .error (.assigned name)

/-- Erasing a field is refused, whatever its name. -/
def erase (_ : CallRecord) (name : String) : Except Refusal CallRecord :=
  .error (.erased name)

end CallRecord

end CallRegistry
