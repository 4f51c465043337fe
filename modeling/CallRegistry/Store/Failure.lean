import CallRegistry.CallRecord.Item
import CallRegistry.ForeignFailure

/-!
# Failures of calls to the table service

A call to the table service that does not return fails in one of three ways.
The service rejected it; the client could not carry it out; or something went
wrong that neither of the two provides for.  The first two are reported as
failures of the storage, the third passes through as it is.
-/

namespace CallRegistry

structure Rejection where
  /-- The operation that was refused. -/
  operation : String
  code : Option String
  reason : Option String
  /-- How often the request was tried again, when that was reported. -/
  retries : Option String
  deriving DecidableEq, Repr

namespace Rejection

/-- The code of a write whose condition did not hold. -/
def conditionFailedCode : String := "ConditionalCheckFailedException"

def isConditionFailed (r : Rejection) : Bool :=
  r.code == some conditionFailedCode

/-- What the part of a response about its delivery says of requests that were
sent again: how often, if the limit was reached. -/
def retriesIn (metadata : Form) : Option String :=
  if ((metadata.lookup "MaxAttemptsReached").getD .null).isVoid then none
  else (metadata.lookup "RetryAttempts").map Datum.display

def ofParts (operation : String) (metadata error : Form) : Rejection :=
  { operation
    code := (error.lookup "Code").map Datum.display
    reason := (error.lookup "Message").map Datum.display
    retries := retriesIn metadata }

def message (r : Rejection) : String :=
  let retried :=
    match r.retries with
    | some n => " (reached max retries: " ++ n ++ ")"
    | none => ""
  "An error occurred (" ++ r.code.getD "Unknown" ++ ") when calling the " ++
    r.operation ++ " operation" ++ retried ++ ": " ++ r.reason.getD "Unknown"

end Rejection

inductive ClientFault where
  | endpointConnection (url : String)
  | connectTimeout (url : String)
  | readTimeout (url : String)
  | connectionClosed (url : String)
  | noCredentials
  | noRegion
  | invalidParameters (report : String)
  | sessionExpired
  | unspecified
  deriving DecidableEq, Repr

def ClientFault.message : ClientFault → String
  | .endpointConnection url =>
    "Could not connect to the endpoint URL: \"" ++ url ++ "\""
  | .connectTimeout url => "Connect timeout on endpoint URL: \"" ++ url ++ "\""
  | .readTimeout url => "Read timeout on endpoint URL: \"" ++ url ++ "\""
  | .connectionClosed url =>
    "Connection was closed before we received a valid response from " ++
      "endpoint URL: \"" ++ url ++ "\"."
  | .noCredentials => "Unable to locate credentials"
  | .noRegion => "You must specify a region."
  | .invalidParameters report => "Parameter validation failed:\n" ++ report
  | .sessionExpired =>
    "The SSO session associated with this profile has expired or is " ++
      "otherwise invalid. To refresh this SSO session run aws sso login " ++
      "with the corresponding profile."
  | .unspecified => "An unspecified error occurred"

inductive CallFailure where
  | rejected (rejection : Rejection)
  | client (fault : ClientFault)
  | foreign (failure : ForeignFailure)
  deriving DecidableEq, Repr

/-- Whether a call failed because the condition of a write did not hold. -/
def CallFailure.isConditionFailed : CallFailure → Bool
  | .rejected r => r.isConditionFailed
  | _ => false

namespace CallFailure

/-- The failure to read a member of something that has none. -/
def memberless (d : Datum) : CallFailure :=
  .foreign
    { sort := "AttributeError"
      message := "'" ++ d.kindName ++ "' object has no attribute 'get'" }

/-- The failure to read something in a way that its kind does not allow. -/
def unreadable (reason : String) : CallFailure :=
  .foreign { sort := "TypeError", message := reason }

/-- The failure to read a response that is no map: its parts are searched for
before they are read. -/
def ofMisshapen (response : Datum) : CallFailure :=
  let part := "ResponseMetadata"
  match response with
  | .list xs =>
    if xs.any fun x => x.text? == some part then
      unreadable "list indices must be integers or slices, not str"
    else memberless response
  | .text s =>
    if s.contains part then
      unreadable "string indices must be integers, not 'str'"
    else memberless response
  | .bytes _ => unreadable "a bytes-like object is required, not 'str'"
  | d => unreadable ("argument of type '" ++ d.kindName ++ "' is not iterable")

/-- The failure that a response of the service stands for: a rejection, unless
the response does not have the parts of one.  A part that is absent is empty. -/
def ofResponse (operation : String) (response : Datum) : CallFailure :=
  match response with
  | .map parts =>
    match (parts.lookup "ResponseMetadata").getD (.map []) with
    | .map metadata =>
      match (parts.lookup "Error").getD (.map []) with
      | .map error => .rejected (.ofParts operation metadata error)
      | error => memberless error
    | metadata => memberless metadata
  | response => ofMisshapen response

end CallFailure

/-- What the service answers to a request: a response of any shape, or a
failure. -/
abbrev Reply := Except CallFailure Datum

inductive StorageVerb where
  | get
  | put
  | delete
  | query
  deriving DecidableEq, Repr

/-- What a failure of a verb is called. -/
def StorageVerb.complaint : StorageVerb → String
  | .get => "Failed to get_item from storage: "
  | .put => "Failed to put_item to storage: "
  | .delete => "Failed to delete_item from storage: "
  | .query => "Failed to query for calls in a region: "

inductive StoreFailure where
  /-- The storage failed, for the given reason. -/
  | storage (verb : StorageVerb) (reason : String)
  /-- An item of the table holds no call record. -/
  | conversion (fault : ItemFault)
  /-- An item is at fault in a way that nothing provides for. -/
  | unforeseen (fault : ItemFault)
  /-- A response that is no map. -/
  | noFields (kind : String)
  /-- A list of items that cannot be gone through. -/
  | noItems (kind : String)
  | foreign (failure : ForeignFailure)

namespace StoreFailure

def isStorage : StoreFailure → Bool
  | .storage .. | .conversion .. => true
  | _ => false

def message : StoreFailure → String
  | .storage verb reason => verb.complaint ++ reason
  | .conversion fault => "Failed to convert item to CallRecord: " ++ fault.written
  | .unforeseen fault => fault.message
  | .noFields kind => "'" ++ kind ++ "' object has no attribute 'get'"
  | .noItems kind => "'" ++ kind ++ "' object is not iterable"
  | .foreign failure => failure.message

/-- What a fault of an item becomes in an operation of the store. -/
def ofItem (fault : ItemFault) : StoreFailure :=
  if fault.sort.isExpected then .conversion fault else .unforeseen fault

end StoreFailure

end CallRegistry
