import CallRegistry.Event
import CallRegistry.Settings.Basic
import CallRegistry.Store.Operation

/-!
# Answers about health

The registry is alive whenever it answers; what it says then follows from the
settings alone.  It is ready when nothing that has to be set is missing and a
read from the store succeeds.  A read that fails in a way the store does not
announce is no answer about readiness but a failure of the registry.
-/

namespace CallRegistry

/-- An answer to a web request. -/
structure WebAnswer where
  status : Nat
  /-- The body; none when it is empty. -/
  body : Option Datum
  /-- The method that would have been answered. -/
  allow : Option String := none
  location : Option String := none
  events : List Event := []
  /-- The failure that is passed on after the answer. -/
  raised : Option StoreFailure := none

namespace WebAnswer

/-- The type of a body. -/
def contentType (a : WebAnswer) : Option String :=
  a.body.map fun _ => "application/json"

/-- The answer that refers to something in one line. -/
def detail (status : Nat) (text : String) : WebAnswer :=
  { status, body := some (.map [("detail", .text text)]) }

end WebAnswer

namespace Health

/-- The version of the registry. -/
def version : String := "0.1.0"

/-- The group that is looked up to see whether the store answers; it never has a
call. -/
def probeGroup : String := "readiness-probe"

/-- The answer that the registry is alive. -/
def liveness (s : Settings) : WebAnswer where
  status := 200
  body := some (.map
    [("status", .text "ok"),
      ("version", .text version),
      ("details", .map
        [("mock_mode", .bool s.storageMockMode),
          ("identity_refresh", .bool s.identityTokenUrl.isSome)])])

/-- The check of the settings. -/
def configurationCheck (s : Settings) : ReadinessCheck where
  name := "configuration"
  error :=
    if s.missing.isEmpty then none
    else
      some ("Missing required fields: " ++
        ", ".intercalate (s.missing.map Requirement.name))

/-- The check of the store, given the failure of a read from it, if it failed. -/
def storageCheck (failure : Option StoreFailure) : ReadinessCheck where
  name := "storage"
  error := failure.map StoreFailure.message

/-- The answer that the given checks make up. -/
def readinessOf (checks : List ReadinessCheck) : WebAnswer :=
  let ready := checks.all ReadinessCheck.isOk
  { status := if ready then 200 else 503
    body := some (.map
      [("status", .text (if ready then "ready" else "not_ready")),
        ("version", .text version),
        ("checks", .list (checks.map ReadinessCheck.toDatum))])
    events := if ready then [] else [.notReady checks] }

/-- The answer to a request for a path that ends in a failure. -/
def unhandled (method path : String) (failure : StoreFailure) : WebAnswer :=
  { WebAnswer.detail 500 "Internal server error." with
    events := [.unhandled path method failure.message]
    raised := some failure }

/-- The answer about readiness, given how the read from the store ended. -/
def readiness (s : Settings) (method path : String) (probe : StoreOutcome) :
    WebAnswer :=
  let configuration := configurationCheck s
  match probe with
  | .ok _ => readinessOf [configuration, storageCheck none]
  | .error failure =>
    if failure.isStorage then
      let answer := readinessOf [configuration, storageCheck (some failure)]
      { answer with events := .probeFailed failure.message :: answer.events }
    else
      unhandled method path failure

end Health

end CallRegistry
