import CallRegistry.Settings.Basic
import CallRegistry.Store.Opening
import CallRegistry.Token.Refresher

/-!
# Starting the services

A registry needs a store and a refresher of its identity token.  The production
table is reached with the token, so the first token is fetched and put in place
before a client of the table is made.  A store in memory or behind a local
endpoint needs no token, and its refresher has no address to fetch one from.

What is done on the way is kept as a list of acts in their order.
-/

namespace CallRegistry

open File (Path Tree)
open Token (TokenSource FetchFault Refresher)

/-- What is done on the way to the services. -/
inductive Act where
  /-- A client for fetching tokens is made. -/
  | webClientOpened
  | webClientClosed
  /-- A request for a token goes out to an address. -/
  | requested (url : String)
  | tableClientMade (client : TableClient)
  | logged (event : Event)
  deriving DecidableEq, Repr

inductive StartupFault where
  /-- The interval between refreshes is too long. -/
  | interval
  | noTokenFile
  | firstFetch (fault : FetchFault)
  | interrupted (sort : Http.Interruption) (message : String)
  | store (fault : OpeningFault)
  deriving DecidableEq, Repr

def StartupFault.message : StartupFault → String
  | .interval => "integer division result too large for a float"
  | .noTokenFile => Requirement.tokenFile.name ++ " is not set"
  | .firstFetch fault =>
    "Initial identity token fetch failed: " ++ fault.message
  | .interrupted _ message => message
  | .store fault => fault.message

structure Services where
  store : Store
  refresher : Refresher

/-- The start of the services: what it comes to, what was done, and the tree of
files afterwards. -/
structure Startup where
  /-- None when the delivery to the first request never arrives. -/
  outcome : Option (Except StartupFault Services)
  acts : List Act
  tree : Tree

namespace Startup

def events (s : Startup) : List Event :=
  s.acts.filterMap fun
    | .logged event => some event
    | _ => none

def requests (s : Startup) : List String :=
  s.acts.filterMap fun
    | .requested url => some url
    | _ => none

/-- The clients of the table that were made, in order. -/
def tableClients (s : Startup) : List TableClient :=
  s.acts.filterMap fun
    | .tableClientMade client => some client
    | _ => none

/-- Whether each client for fetching tokens was closed, in the order in which
they were made.  A client is closed before the next one is made, if ever. -/
def closings : List Act → List Bool
  | [] => []
  | .webClientOpened :: rest => rest.contains .webClientClosed :: closings rest
  | _ :: rest => closings rest

def webClientsClosed (s : Startup) : List Bool :=
  closings s.acts

end Startup

/-- The acts of opening a store. -/
def OpenedStore.acts (o : OpenedStore) : List Act :=
  let (first, last) :=
    match o.client with
    | some _ => (o.events.dropLast, o.events.getLast?.toList)
    | none => (o.events, [])
  first.map .logged ++ o.client.toList.map .tableClientMade ++ last.map .logged

namespace Settings

/-- The path of a token file that is never written. -/
def unusedTokenFile : Path :=
  .ofText "/tmp/token"

def tableConfig (s : Settings) (endpoint : Option String) : TableConfig where
  table := .text s.storageTable
  region := .text s.storageRegion
  regionIndex := .text s.storageRegionIndex
  endpoint := .ofText? endpoint
  maxAttempts := .int s.storageMaxAttempts

def refresher (s : Settings) (source : TokenSource) : Refresher :=
  { source, pause := .lasting s.intervalMs }

/-- Where the tokens of a registry that needs none come from. -/
def noTokens : TokenSource :=
  { url := none, path := unusedTokenFile }

def openStore (before : List Act) (refresher : Refresher)
    (opened : Except RefusedStore OpenedStore) (t : Tree) : Startup :=
  match opened with
  | .ok o =>
    { outcome := some (.ok { store := o.store, refresher })
      acts := before ++ o.acts
      tree := t }
  | .error refused =>
    { outcome := some (.error (.store refused.fault))
      acts := before ++ refused.events.map .logged
      tree := t }

/-- Starts the services in production, given the token file, the delivery to the
first request and what makes the client of the table. -/
def startProduction (s : Settings) (tokenFile : String) (first : Http.Delivery)
    (t : Tree) (maker : ClientMaker) : Startup :=
  let source : TokenSource :=
    { url := s.identityTokenUrl, path := .ofText tokenFile }
  let fetched := source.fetch true first.outcome t first.writing.mishap
  let begun := [.webClientOpened] ++ fetched.announced.map .logged ++
    fetched.requests.map .requested
  let acts := begun ++ fetched.confirmed.map .logged
  if first.delay.isNone && !fetched.requests.isEmpty then
    { outcome := none, acts := begun, tree := t }
  else
    match fetched.ending with
    | .done =>
      openStore acts (s.refresher source)
        (OpenedStore.table (s.tableConfig none) maker) fetched.tree
    | .failed fault =>
      { outcome := some (.error (.firstFetch fault))
        acts := acts ++ [.webClientClosed]
        tree := fetched.tree }
    | .interrupted sort message =>
      { outcome := some (.error (.interrupted sort message))
        acts
        tree := fetched.tree }

/-- Starts the services, given the delivery to the first request for a token. -/
def start (s : Settings) (first : Http.Delivery) (t : Tree)
    (maker : ClientMaker := .willing) : Startup :=
  let failed (fault : StartupFault) : Startup :=
    { outcome := some (.error fault), acts := [], tree := t }
  let unrefreshed := s.refresher noTokens
  if s.intervalSeconds?.isNone then failed .interval
  else
    match s.deployment with
    | .inMemory =>
      openStore [.webClientOpened] unrefreshed (.ok OpenedStore.memory) t
    | .endpoint url =>
      openStore [.webClientOpened] unrefreshed
        (OpenedStore.table (s.tableConfig (some url)) maker) t
    | .production =>
      match s.tokenFile with
      | some file =>
        if file = "" then failed .noTokenFile
        else s.startProduction file first t maker
      | none => failed .noTokenFile

end Settings

end CallRegistry
