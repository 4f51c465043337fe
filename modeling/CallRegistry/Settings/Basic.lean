import CallRegistry.Datum

/-!
# Settings

The settings of a registry, typed and with their defaults.  The interval between
two refreshes of the identity token is positive by its type.  What else has to be
set depends on where the records are kept, which `Settings.deployment` decides:
in memory, in a table behind a local endpoint, or in the production table, which
is reached with an identity token.
-/

namespace CallRegistry

structure Settings where
  apiTitle : String := "Group Call Registry"
  apiVersion : String := "v1"
  storageTable : String := "Conferences"
  /-- The index that finds records by region. -/
  storageRegionIndex : String := "region-index"
  storageRegion : String := "us-west-1"
  storageEndpoint : Option String := none
  /-- Attempts for each request to the table, the first included. -/
  storageMaxAttempts : Int := 4
  storageMockMode : Bool := false
  /-- Milliseconds between two refreshes of the identity token. -/
  intervalMs : { n : Nat // 0 < n } := ⟨600000, by decide⟩
  /-- Where identity tokens come from; nothing is refreshed without it. -/
  identityTokenUrl : Option String := none
  /-- The file that identity tokens are kept in. -/
  tokenFile : Option String := none
  logLevel : String := "INFO"
  deriving DecidableEq

def isGiven : Option String → Bool
  | some s => s != ""
  | none => false

/-- Where the records are kept. -/
inductive Deployment where
  | inMemory
  /-- A table behind the endpoint of a local service. -/
  | endpoint (url : String)
  | production
  deriving DecidableEq, Repr

/-- What has to be set, beyond what has a default. -/
inductive Requirement where
  | storageTable
  | tokenFile
  deriving DecidableEq, Repr

def Requirement.name : Requirement → String
  | .storageTable => "STORAGE_TABLE"
  | .tokenFile => "AWS_WEB_IDENTITY_TOKEN_FILE"

namespace Settings

/-- Where the records are kept: in memory when that is asked for, behind an
endpoint when one is given, and in the production table otherwise. -/
def deployment (s : Settings) : Deployment :=
  if s.storageMockMode then .inMemory
  else
    match s.storageEndpoint with
    | some url => if url ≠ "" then .endpoint url else .production
    | none => .production

/-- The interval between two refreshes in seconds; none when it is too long for
a double. -/
def intervalSeconds? (s : Settings) : Option Binary64 :=
  Binary64.ofRatio s.intervalMs 1000

/-- What has to be set and is not: the name of the table, and in production the
file of the identity token. -/
def missing (s : Settings) : List Requirement :=
  (if s.storageTable = "" then [.storageTable] else []) ++
  (if s.deployment = .production ∧ !isGiven s.tokenFile then [.tokenFile]
    else [])

/-- The settings by name, in order. -/
def toForm (s : Settings) : List (String × Datum) :=
  [("api_title", .text s.apiTitle),
    ("api_version", .text s.apiVersion),
    ("storage_table", .text s.storageTable),
    ("storage_region_index", .text s.storageRegionIndex),
    ("storage_region", .text s.storageRegion),
    ("storage_endpoint", .ofText? s.storageEndpoint),
    ("storage_max_attempts", .int s.storageMaxAttempts),
    ("storage_mock_mode", .bool s.storageMockMode),
    ("identity_fetcher_interval_ms", .int s.intervalMs.val),
    ("identity_token_url", .ofText? s.identityTokenUrl),
    ("aws_web_identity_token_file", .ofText? s.tokenFile),
    ("log_level", .text s.logLevel)]

/-- The settings of which nothing is set. -/
def standard : Settings := {}

def names : List String :=
  (toForm standard).map (·.1)

end Settings

end CallRegistry
