import CallRegistry.Event
import CallRegistry.ForeignFailure

/-!
# The table and the client that reaches it

Which table holds the records, and the client that is made for it.  With an
endpoint the client talks to a local service under placeholder keys; without
one it uses the credentials of its surroundings.

A configuration that is handed in by name may hold data of any kind, and all of it
is passed on as it is.  What makes the client looks at the number of attempts: what
has no order among the numbers, and what is negative, is refused before anything is
logged.  It may refuse other things as well, such as an address without a scheme or a
region of an unknown form.  This is not described here but left open, as a
`ClientMaker`.
-/

namespace CallRegistry

/-- Which table holds the records, and how it is reached. -/
structure TableConfig where
  table : Datum
  region : Datum
  /-- The index that finds records by region. -/
  regionIndex : Datum := .text "region-index"
  /-- The local service, if there is one. -/
  endpoint : Datum := .null
  /-- Attempts for each request, the first included. -/
  maxAttempts : Datum := .int 4
  deriving DecidableEq, Repr

namespace TableConfig

/-- The configuration handed in by name; none when the names do not fit. -/
def ofForm? (form : Form) : Option TableConfig :=
  let required := ["table_name", "region"]
  let known := required ++ ["region_index", "endpoint_url", "max_attempts"]
  let config : TableConfig :=
    { table := form.value "table_name", region := form.value "region" }
  if form.fits required known then
    some
      { config with
        regionIndex := (form.lookup "region_index").getD config.regionIndex
        endpoint := (form.lookup "endpoint_url").getD config.endpoint
        maxAttempts := (form.lookup "max_attempts").getD config.maxAttempts }
  else
    none

def toForm (c : TableConfig) : Form :=
  [("table_name", c.table), ("region", c.region),
    ("region_index", c.regionIndex), ("endpoint_url", c.endpoint),
    ("max_attempts", c.maxAttempts)]

end TableConfig

/-- A client of the table service, by what it was made with. -/
structure TableClient where
  region : Datum
  maxAttempts : Datum
  /-- The local service it talks to, if any. -/
  endpoint : Option Datum
  deriving DecidableEq, Repr

inductive InvalidAttempts where
  | negative (given : Datum)
  /-- Something that is no number. -/
  | noNumber (kind : String)
  deriving DecidableEq, Repr

def InvalidAttempts.message : InvalidAttempts → String
  | .negative given =>
    "Value provided to \"max_attempts\": " ++ given.written ++
      " must be an integer greater than or equal to 0."
  | .noNumber kind =>
    "'<' not supported between instances of '" ++ kind ++ "' and 'int'"

def attemptsFault? (d : Datum) : Option InvalidAttempts :=
  match d with
  | .bool _ => none
  | .int i => if i < 0 then some (.negative d) else none
  | .real x => if x.negative && !x.isZero then some (.negative d) else none
  | d => some (.noNumber d.kindName)

namespace TableClient

/-- Keys that a local service accepts: any will do, but none will not. -/
def placeholderKeys : String × String := ("DUMMY_KEY", "DUMMY_PASSWORD")

/-- The keys a client is given; without an endpoint it finds its own. -/
def keys (c : TableClient) : Option (String × String) :=
  if c.endpoint.isSome then some placeholderKeys else none

end TableClient

def TableConfig.client (config : TableConfig) : TableClient where
  region := config.region
  maxAttempts := config.maxAttempts
  endpoint := if config.endpoint.isVoid then none else some config.endpoint

/-- The entry that says what a client is made for. -/
def TableConfig.chosen (config : TableConfig) : Event :=
  if config.endpoint.isVoid then .regionChosen config.region
  else .endpointChosen config.endpoint

/-- What makes clients, by what it refuses besides a wrong number of attempts. -/
structure ClientMaker where
  /-- What is wrong with a configuration, before anything is logged. -/
  configFault? : TableConfig → Option ForeignFailure
  /-- What is wrong with a client, once its address or its region is logged. -/
  clientFault? : TableClient → Option ForeignFailure

/-- A maker that refuses nothing else. -/
def ClientMaker.willing : ClientMaker where
  configFault? _ := none
  clientFault? _ := none

inductive MakingFault where
  | attempts (fault : InvalidAttempts)
  | foreign (failure : ForeignFailure)
  deriving DecidableEq, Repr

def MakingFault.message : MakingFault → String
  | .attempts fault => fault.message
  | .foreign failure => failure.message

/-- A client that was refused, and what was logged by then. -/
structure RefusedClient where
  fault : MakingFault
  events : List Event

namespace ClientMaker

/-- Why a client for a configuration is refused before anything is logged. -/
def earlyFault? (m : ClientMaker) (config : TableConfig) : Option MakingFault :=
  match attemptsFault? config.maxAttempts with
  | some fault => some (.attempts fault)
  | none => (m.configFault? config).map .foreign

def make (m : ClientMaker) (config : TableConfig) :
    Except RefusedClient (Event × TableClient) :=
  match m.earlyFault? config with
  | some fault => .error { fault, events := [] }
  | none =>
    let client := config.client
    match m.clientFault? client with
    | some failure =>
      .error { fault := .foreign failure, events := [config.chosen] }
    | none => .ok (config.chosen, client)

end ClientMaker

/-- The entry that announces a store on a table. -/
def TableConfig.opened (config : TableConfig) : Event :=
  .tableOpened config.table config.region config.endpoint

end CallRegistry
