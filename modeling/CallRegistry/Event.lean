import CallRegistry.Form
import CallRegistry.Health.Check

/-!
# Log entries

Everything the registry writes to its log, as one type.  An event says what
happened; its level, its wording and its details are functions of it, so that
the wording of an entry is decided in one place and statements about the log
are statements about events.
-/

namespace CallRegistry

/-- How much an entry of the log matters. -/
inductive Level where
  | debug
  | info
  | warning
  | error
  deriving DecidableEq, Repr

def Level.name : Level → String
  | .debug => "DEBUG"
  | .info => "INFO"
  | .warning => "WARNING"
  | .error => "ERROR"

inductive Event where
  -- the store kept in memory
  | memoryOpened
  | memoryStored (group call : String)
  | memoryHeld (group call : String)
  -- the store kept in a table
  | endpointChosen (endpoint : Datum)
  | regionChosen (region : Datum)
  | tableOpened (table region endpoint : Datum)
  | readFailed (group error : String)
  | callPresent (group call : String)
  | addFailed (group error : String)
  | callAdded (group call region : String)
  | callGone (group call : String)
  | removeFailed (group call error : String)
  | callRemoved (group call : String)
  | queryFailed (region error : String)
  -- the identity token
  | tokenRequested (url : String)
  | tokenWritten (path : String)
  | fetchFailed (error : String)
  | cycleFinished (microseconds : Nat)
  | refresherReady
  | refresherDied (error : String)
  | refresherStopped
  -- the application
  | applicationCreated (title version : String)
  | registryStarting (version : String) (mockMode : Bool) (table : String)
  | configurationMissing (names : List String)
  | registryStopping
  | unhandled (path method error : String)
  | probeFailed (error : String)
  | notReady (checks : List ReadinessCheck)
  deriving DecidableEq, Repr

namespace Event

def level : Event → Level
  | memoryStored .. | memoryHeld .. | callPresent .. | callGone ..
  | tokenRequested .. | tokenWritten .. | cycleFinished .. => .debug
  | memoryOpened | endpointChosen .. | regionChosen .. | tableOpened ..
  | callAdded .. | callRemoved .. | refresherReady | refresherStopped
  | applicationCreated .. | registryStarting .. | registryStopping => .info
  | notReady .. => .warning
  | readFailed .. | addFailed .. | removeFailed .. | queryFailed ..
  | fetchFailed .. | refresherDied .. | configurationMissing ..
  | unhandled .. | probeFailed .. => .error

def message : Event → String
  | memoryOpened => "Initialized mock call record store (in-memory)"
  | memoryStored .. => "Stored call in mock storage"
  | memoryHeld .. => "Call already in mock storage"
  | endpointChosen .. => "Using endpoint for DynamoDB testing"
  | regionChosen .. => "Using region for DynamoDB access"
  | tableOpened .. => "Initialized DynamoDB call record store"
  | readFailed .. => "Failed to get call record"
  | callPresent .. => "Call already exists for group"
  | addFailed .. => "Failed to add call record"
  | callAdded .. => "Added call record"
  | callGone .. => "Call record already gone or replaced"
  | removeFailed .. => "Failed to remove call record"
  | callRemoved .. => "Removed call record"
  | queryFailed .. => "Failed to query calls in region"
  | tokenRequested .. => "Fetching identity token"
  | tokenWritten .. => "Successfully wrote identity token"
  | fetchFailed .. => "Failed to fetch identity token"
  | cycleFinished .. => "Identity fetch cycle finished"
  | refresherReady => "Identity fetcher ready"
  | refresherDied .. => "Identity fetcher loop ended unexpectedly"
  | refresherStopped => "Identity fetcher shutdown"
  | applicationCreated .. => "FastAPI application created"
  | registryStarting .. => "Group call registry starting"
  | configurationMissing .. => "Missing required configuration"
  | registryStopping => "Group call registry shutting down"
  | unhandled .. => "Unhandled exception"
  | probeFailed .. => "Storage health check failed"
  | notReady .. => "Readiness check failed"

/-- The details that an entry carries beside its wording. -/
def details : Event → Form
  | memoryStored group call | memoryHeld group call | callPresent group call
  | callGone group call | callRemoved group call =>
    [("group_id", .text group), ("call_id", .text call)]
  | endpointChosen endpoint => [("endpoint", endpoint)]
  | regionChosen region => [("region", region)]
  | tableOpened table region endpoint =>
    [("table", table), ("region", region), ("endpoint", endpoint)]
  | readFailed group error | addFailed group error =>
    [("group_id", .text group), ("error", .text error)]
  | callAdded group call region =>
    [("group_id", .text group), ("call_id", .text call),
      ("region", .text region)]
  | removeFailed group call error =>
    [("group_id", .text group), ("call_id", .text call),
      ("error", .text error)]
  | queryFailed region error =>
    [("region", .text region), ("error", .text error)]
  | tokenRequested url => [("url", .text url)]
  | tokenWritten path => [("path", .text path)]
  | fetchFailed error =>
    [("event", .text "identity_fetcher.error"), ("error", .text error)]
  | cycleFinished microseconds =>
    [("event", .text "identity_fetcher.timed"),
      ("duration_us", .int microseconds)]
  | refresherDied error | probeFailed error => [("error", .text error)]
  | applicationCreated title version =>
    [("title", .text title), ("version", .text version)]
  | registryStarting version mockMode table =>
    [("version", .text version), ("mock_mode", .bool mockMode),
      ("table", .text table)]
  | configurationMissing names =>
    [("missing_fields", .list (names.map .text))]
  | unhandled path method error =>
    [("path", .text path), ("method", .text method), ("error", .text error)]
  | notReady checks =>
    [("checks", .list (checks.map ReadinessCheck.toDatum))]
  | memoryOpened | refresherReady | refresherStopped | registryStopping => []

/-- Whether an entry is named as an event of the refresh cycle. -/
def isCycleEvent (e : Event) : Bool :=
  e.details.any (·.1 == "event")

def toDatum (e : Event) : Datum :=
  .map [("level", .text e.level.name), ("message", .text e.message),
    ("extra", .map e.details)]

end Event

end CallRegistry
