import CallRegistry.Application.Target
import CallRegistry.Health.Answer
import CallRegistry.Startup
import CallRegistry.Store.Script
import CallRegistry.Token.Run

/-!
# The application

The application owns the store and the refresher of the identity token from its
launch to its shutdown.  It answers requests about its health, carries out calls
on its store, and lets the refresher go on as time passes.  Replies of the table
service and deliveries to token requests are fixed in advance.
-/

namespace CallRegistry

open File (Tree)

inductive CreationFault where
  | noTitle
  | noVersion
  deriving DecidableEq, Repr

def CreationFault.message : CreationFault → String
  | .noTitle => "A title must be provided for OpenAPI, e.g.: 'My API'"
  | .noVersion => "A version must be provided for OpenAPI, e.g.: '2.1.0'"

structure Description where
  title : String
  version : String
  summary : String
  /-- The paths of its two pages of documentation. -/
  pages : String × String
  deriving DecidableEq, Repr

namespace Description

/-- The description of an application with the given settings; it has to have a
title and a version. -/
def ofSettings (s : Settings) : Except CreationFault Description :=
  if s.apiTitle = "" then .error .noTitle
  else if s.apiVersion = "" then .error .noVersion
  else
    .ok
      { title := s.apiTitle
        version := s.apiVersion
        summary := "Tracks the live call instance for each calling group."
        pages := ("/docs", "/redoc") }

def created (d : Description) : Event :=
  .applicationCreated d.title d.version

end Description

structure Application where
  settings : Settings
  store : Store
  /-- The replies that the table service has left. -/
  replies : List Reply
  /-- The requests that went to the table service, in order. -/
  tableRequests : List Request
  refresher : Token.Refresher
  loop : Token.Loop
  /-- Whether the run of the refresher has returned. -/
  returned : Bool
  /-- Whether the client that fetches tokens is open. -/
  clientOpen : Bool
  script : Http.Script
  /-- The addresses of the requests for tokens, in order. -/
  tokenRequests : List String
  /-- Milliseconds since the launch. -/
  now : Nat

/-- The launch of an application: how the services were started, and what was
logged before that. -/
structure Launch where
  announced : List Event
  startup : Startup
  /-- The application, if its services could be started. -/
  application : Option Application

namespace Launch

def events (l : Launch) : List Event :=
  l.announced ++ l.startup.events ++
    if l.application.isSome then [.refresherReady] else []

end Launch

namespace Application

/-- What is logged before the services are started. -/
def announcement (s : Settings) : List Event :=
  let missing := s.missing
  .registryStarting s.apiVersion s.storageMockMode s.storageTable ::
    if missing.isEmpty then []
    else [.configurationMissing (missing.map Requirement.name)]

def launch (s : Settings) (script : Http.Script) (replies : List Reply)
    (t : Tree) (maker : ClientMaker := .willing) : Launch :=
  let startup := s.start (script.delivery 0) t maker
  let application :=
    match startup.outcome with
    | none | some (.error _) => none
    | some (.ok services) =>
      let sent := startup.requests
      some
        { settings := s
          store := services.store
          replies
          tableRequests := []
          refresher := services.refresher
          loop := services.refresher.start 0 sent.length startup.tree
          returned := false
          clientOpen := true
          script
          tokenRequests := sent
          now := 0 }
  { announced := announcement s, startup, application }

def call (a : Application) (ticket : Nat) (c : StoreCall) :
    Application × StoreOutcome × List Event :=
  match a.store with
  | .memory records =>
    let (records, answer, events) := records.perform ticket c
    ({ a with store := .memory records }, .ok answer, events)
  | .table _ =>
    let played := c.begin.play a.replies
    ({ a with
        replies := played.unused
        tableRequests := a.tableRequests ++ played.requests },
      played.outcome, played.events)

/-- The answer to a request about readiness: the store is read once. -/
def checkReadiness (a : Application) (method path : String) :
    Application × WebAnswer :=
  let (next, outcome, events) := a.call 0 (.get Health.probeGroup)
  let answer := Health.readiness a.settings method path outcome
  (next, { answer with events := events ++ answer.events })

/-- Answers a request that came in under an origin. -/
def answer (a : Application) (origin method : String) (t : WebTarget) :
    Application × WebAnswer :=
  match t.destination method with
  | .route .liveness => (a, Health.liveness a.settings)
  | .route .readiness => a.checkReadiness method t.reportedPath
  | .notAllowed =>
    (a, { WebAnswer.detail 405 "Method Not Allowed" with
      allow := some answeredMethod })
  | .elsewhere path =>
    (a,
      { status := 307
        body := none
        location := some (t.locationOf origin path) })
  | .unknown => (a, .detail 404 "Not Found")

/-- What a list of entries logs. -/
def logOf (entries : List Token.Entry) : List Event :=
  entries.filterMap fun e =>
    match e.happening with
    | .logged event => some event
    | .requested .. => none

/-- The addresses of the requests in a list of entries. -/
def requestsOf (entries : List Token.Entry) : List String :=
  entries.filterMap fun e =>
    match e.happening with
    | .requested _ url => some url
    | .logged _ => none

/-- What the run of the refresher logs when its loop is found to be over. -/
def lastWords (a : Application) : List Event :=
  match a.loop.phase with
  | .ended .. | .outlived .. =>
    if a.returned then []
    else Token.Refresher.obituary a.loop.phase ++ [.refresherStopped]
  | _ => []

/-- Lets time pass: the refresher does what is due by then, and returns when its
loop is over. -/
def advance (a : Application) (milliseconds : Nat) : Application × List Event :=
  let now := a.now + milliseconds
  let limit := some (now + 1)
  let (loop, entries) := a.refresher.advance a.script limit none
    (a.refresher.stepsWithin a.script limit none) a.loop
  let next := { a with
    now
    loop
    tokenRequests := a.tokenRequests ++ requestsOf entries }
  let words := next.lastWords
  ({ next with returned := a.returned || !words.isEmpty },
    logOf entries ++ words)

/-- The run of the refresher, told to stop at this moment. -/
def stoppedRun (a : Application) : Token.RunResult :=
  a.refresher.settle { atTime := some (a.now, .stop), atRequest := none }
    a.loop []

/-- Shuts the application down: its refresher is told to stop, and once the run has
returned, the client that fetches tokens is closed. -/
def stop (a : Application) : Application × List Event :=
  let run := a.stoppedRun
  let said := if a.returned then [] else logOf run.entries
  let stopped := { a with loop := run.loop }
  let closed :=
    match run.conclusion with
    | .returned _ => { stopped with returned := true, clientOpen := false }
    | .cancelled _ | .never => stopped
  (closed, .registryStopping :: said)

end Application

end CallRegistry
