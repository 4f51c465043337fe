import CallRegistry.Store.Failure
import CallRegistry.Store.Request

/-!
# Operations of the store on a table

The four operations of a store, and how each of them is carried out on a table.
An operation under way is `Pending`: it has sent one request and waits for the
reply.  `Pending.resume` takes the reply and either finishes or sends the next
request.  A put whose condition fails goes on to read the group's record, and a
query goes on as long as the service names a key to continue after; every other
reply finishes the operation.

Since an operation is a value between its requests, the requests of several
clients can be interleaved in any order.
-/

namespace CallRegistry

inductive StoreCall where
  /-- The record of a group. -/
  | get (group : String)
  /-- Adds the record unless its group has one, and gives the group's record. -/
  | add (record : CallRecord)
  /-- Removes the group's record if it is of the given call. -/
  | remove (group call : String)
  /-- The records of a region. -/
  | inRegion (region : String)

inductive StoreAnswer where
  | record (record : Option CallRecord)
  | removed
  | records (records : List CallRecord)
  deriving DecidableEq

abbrev StoreOutcome := Except StoreFailure StoreAnswer

/-- An operation that waits for the reply to a request. -/
inductive Pending where
  | reading (group : String)
  | adding (record : CallRecord)
  | removing (group call : String)
  /-- A scan of a region: the records found so far, and the key after which the
  next page begins. -/
  | scanning (region : String) (found : List CallRecord) (after : Option Datum)

/-- What a reply leads to. -/
inductive Progress where
  | waiting (next : Pending)
  | finished (outcome : StoreOutcome)

def StoreCall.begin : StoreCall → Pending
  | .get group => .reading group
  | .add record => .adding record
  | .remove group call => .removing group call
  | .inRegion region => .scanning region [] none

/-- What a call's failure is reported as. -/
def CallFailure.text : CallFailure → String
  | .rejected r => r.message
  | .client f => f.message
  | .foreign f => f.message

namespace Pending

def request : Pending → Request
  | reading group => .getItem group
  | adding record => .putItem record
  | removing group call => .deleteItem group call
  | scanning region _ after => .query region after

/-- A call failed: the storage's failure is logged and announced, any other
passes through. -/
def fail (verb : StorageVerb) (event : String → Event) :
    CallFailure → List Event × Progress
  | .foreign f => ([], .finished (.error (.foreign f)))
  | failure =>
    ([event failure.text], .finished (.error (.storage verb failure.text)))

def readRecord (response : Datum) : StoreOutcome :=
  match response with
  | .map fields =>
    match fields.lookup "Item" with
    | none | some .null => .ok (.record none)
    | some item =>
      match CallRecord.ofItem item with
      | .ok record => .ok (.record (some record))
      | .error fault => .error (.ofItem fault)
  | response => .error (.noFields response.kindName)

def readPage (fields : Form) : Except StoreFailure (List CallRecord) :=
  match fields.lookup "Items" with
  | none => .ok []
  | some items =>
    match items.members? with
    | none => .error (.noItems items.kindName)
    | some items =>
      items.mapM fun item => (CallRecord.ofItem item).mapError .ofItem

def nextKey? (fields : Form) : Option Datum :=
  match fields.lookup "LastEvaluatedKey" with
  | some key => if key.isVoid then none else some key
  | none => none

/-- Goes on with a scan after a page. -/
def readScan (region : String) (found : List CallRecord) (response : Datum) :
    Progress :=
  match response with
  | .map fields =>
    match readPage fields with
    | .error failure => .finished (.error failure)
    | .ok page =>
      match nextKey? fields with
      | some key => .waiting (.scanning region (found ++ page) (some key))
      | none => .finished (.ok (.records (found ++ page)))
  | response => .finished (.error (.noFields response.kindName))

/-- Takes the reply to the request: what is logged, and what comes next. -/
def resume : Pending → Reply → List Event × Progress
  | reading _, .ok response => ([], .finished (readRecord response))
  | reading group, .error failure =>
    fail .get (.readFailed group) failure
  | adding record, .ok _ =>
    ([.callAdded record.groupId record.callId record.backendRegion],
      .finished (.ok (.record (some record))))
  | adding record, .error failure =>
    if failure.isConditionFailed then
      ([.callPresent record.groupId record.callId],
        .waiting (.reading record.groupId))
    else
      fail .put (.addFailed record.groupId) failure
  | removing group call, .ok _ =>
    ([.callRemoved group call], .finished (.ok .removed))
  | removing group call, .error failure =>
    if failure.isConditionFailed then
      ([.callGone group call], .finished (.ok .removed))
    else
      fail .delete (.removeFailed group call) failure
  | scanning region found _, .ok response =>
    ([], readScan region found response)
  | scanning region _ _, .error failure =>
    fail .query (.queryFailed region) failure

end Pending

end CallRegistry
